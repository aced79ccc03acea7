import PoolOperator.Main
import PoolOperator.Manifest.Shipped
import PoolOperator.Proofs.Apply.Conduct
import PoolOperator.Proofs.Apply.Counts
import PoolOperator.Proofs.Apply.Course
import PoolOperator.Proofs.Apply.Entries
import PoolOperator.Proofs.Apply.InMemory
import PoolOperator.Proofs.Apply.Independent
import PoolOperator.Proofs.Apply.Installing
import PoolOperator.Proofs.Apply.Ledger
import PoolOperator.Proofs.Apply.Log
import PoolOperator.Proofs.Apply.Protected
import PoolOperator.Proofs.Apply.Retry
import PoolOperator.Proofs.Apply.Settled
import PoolOperator.Proofs.Apply.Target
import PoolOperator.Proofs.Apply.Transcript
import PoolOperator.Proofs.Apply.Verdict
import PoolOperator.Proofs.Cluster.Collection
import PoolOperator.Proofs.Concurrent
import PoolOperator.Proofs.Config
import PoolOperator.Proofs.Dialogue
import PoolOperator.Proofs.Except
import PoolOperator.Proofs.Fields
import PoolOperator.Proofs.Manifest.Delivery
import PoolOperator.Proofs.Manifest.Documents
import PoolOperator.Proofs.Manifest.Files
import PoolOperator.Proofs.Manifest.Outline
import PoolOperator.Proofs.Manifest.Parts
import PoolOperator.Proofs.Merge.Again
import PoolOperator.Proofs.Merge.Failure
import PoolOperator.Proofs.Merge.Kept
import PoolOperator.Proofs.Merge.Merged
import PoolOperator.Proofs.Merge.Metadata
import PoolOperator.Proofs.Merge.Shape
import PoolOperator.Proofs.Merge.Supplied
import PoolOperator.Proofs.Merge.WellFormed
import PoolOperator.Proofs.Metallb.Conditions
import PoolOperator.Proofs.Metallb.Reconciled
import PoolOperator.Proofs.Object.Members
import PoolOperator.Proofs.Object.Same
import PoolOperator.Proofs.Object.WellFormed
import PoolOperator.Proofs.Pool.Concurrent
import PoolOperator.Proofs.Pool.Course
import PoolOperator.Proofs.Pool.InMemory
import PoolOperator.Proofs.Pool.Merges
import PoolOperator.Proofs.Pool.Overlap
import PoolOperator.Proofs.Pool.Payload
import PoolOperator.Proofs.Pool.RoundTrip
import PoolOperator.Proofs.Readiness
import PoolOperator.Proofs.Store.Cluster
import PoolOperator.Proofs.Store.Memory
import PoolOperator.Proofs.Store.Order
import PoolOperator.Proofs.Template
import PoolOperator.Proofs.Template.Occurrences
import PoolOperator.Proofs.Text.Bytes
import PoolOperator.Proofs.Value.Assign
import PoolOperator.Proofs.Value.Ordered
import PoolOperator.Proofs.Value.Path
import PoolOperator.Proofs.Value.Same
import PoolOperator.Proofs.Value.Shape
import PoolOperator.Proofs.Yaml.Characters
import PoolOperator.Proofs.Yaml.Escapes
import PoolOperator.Proofs.Yaml.Filled
import PoolOperator.Proofs.Yaml.Inline
import PoolOperator.Proofs.Yaml.Layout
import PoolOperator.Proofs.Yaml.Legible
import PoolOperator.Proofs.Yaml.Literal
import PoolOperator.Proofs.Yaml.Nodes
import PoolOperator.Proofs.Yaml.Outline
import PoolOperator.Proofs.Yaml.Printable
import PoolOperator.Proofs.Yaml.Records
import PoolOperator.Proofs.Yaml.Scanning
import PoolOperator.Proofs.Yaml.Stream
import PoolOperator.Proofs.Yaml.Tokens
import PoolOperator.Proofs.Yaml.Valued
import PoolOperator.Proofs.Yaml.Words
import PoolOperator.Proofs.Yaml.Written
import PoolOperator.Store.Memory
import PoolOperator.Surroundings
import PoolOperator.Proofs.Value.Assign
