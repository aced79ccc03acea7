import PoolOperator.Config
import PoolOperator.Manifest.Shipped
import PoolOperator.Proofs.Yaml.Filled
import PoolOperator.Proofs.Yaml.Words

/-!
# The outline of the shipped manifest

The manifest is the text of four documents (`shipped_eq`).  Each is made of a
type, metadata and perhaps a specification (`Part`), with placeholders for the
namespace and the images in the place of plain scalars.
-/

namespace PoolOperator.Manifest

open Yaml (Outline)

/-! ## Parts -/

/-- A plain text. -/
def plain (text : String) : Outline := .scalar .plain text

/-- A mapping to plain texts. -/
def plains (fields : List (String × String)) : Outline :=
  .mapping (fields.map fun field => (field.1, plain field.2))

/-- An object as it is written in a manifest. -/
structure Part where
  /-- The version of the interface. -/
  apiVersion : String
  /-- The kind. -/
  kind : String
  /-- The name. -/
  name : String
  /-- The labels. -/
  labels : List (String × String)
  /-- The specification, if there is one. -/
  spec? : Option (List (String × Outline))

namespace Part

/-- The metadata, in the configured namespace. -/
def metadata (part : Part) : Outline := .mapping [
  ("name", plain part.name),
  ("namespace", plain (Template.placeholder "NameSpace")),
  ("labels", plains part.labels)]

/-- The members that are kept in the body. -/
def others (part : Part) : List (String × Outline) :=
  part.spec?.toList.map fun spec => ("spec", .mapping spec)

/-- The members. -/
def fields (part : Part) : List (String × Outline) :=
  ("apiVersion", plain part.apiVersion) :: ("kind", plain part.kind) ::
    ("metadata", part.metadata) :: part.others

end Part

/-! ## The shipped manifest -/

/-- The labels of a workload, and of its pods. -/
def workloadLabels (name : String) : List (String × String) :=
  [("app", "metallb"), ("component", name)]

/-- How a workload finds its pods. -/
def podSelector (name : String) : Outline :=
  .mapping [("matchLabels", plains (workloadLabels name))]

/-- The metadata of the pods of a workload. -/
def podMetadata (name : String) : Outline := .mapping [
  ("labels", plains (workloadLabels name)),
  ("annotations", .mapping [
    ("prometheus.io/port", .scalar .doubleQuoted "7472"),
    ("prometheus.io/scrape", .scalar .doubleQuoted "true")])]

/-- The nodes that pods may run on. -/
def nodeSelector : Outline := plains [("kubernetes.io/os", "linux")]

/-- The arguments of a container. -/
def arguments : Outline := .sequence [plain "--port=7472", plain "--config=config"]

/-- The ports of a container. -/
def ports : Outline := .sequence [plains [("name", "monitoring"), ("containerPort", "7472")]]

/-- What a container may do. -/
def restrictions (capabilities : List (String × Outline)) : Outline := .mapping [
  ("allowPrivilegeEscalation", plain "false"),
  ("readOnlyRootFilesystem", plain "true"),
  ("capabilities", .mapping capabilities)]

/-- An environment variable that is taken from the pod. -/
def podVariable (name path : String) : Outline := .mapping [
  ("name", plain name),
  ("valueFrom", .mapping [("fieldRef", plains [("fieldPath", path)])])]

/-- The container of the controller. -/
def controllerContainer : Outline := .mapping [
  ("name", plain "controller"),
  ("image", plain (Template.placeholder "ControllerImage")),
  ("args", arguments),
  ("ports", ports),
  ("securityContext", restrictions [("drop", .sequence [plain "all"])])]

/-- The container of the speaker. -/
def speakerContainer : Outline := .mapping [
  ("name", plain "speaker"),
  ("image", plain (Template.placeholder "SpeakerImage")),
  ("args", arguments),
  ("env", .sequence [
    podVariable "METALLB_NODE_NAME" "spec.nodeName",
    podVariable "METALLB_HOST" "status.hostIP",
    podVariable "METALLB_ML_BIND_ADDR" "status.podIP",
    .mapping [
      ("name", plain "METALLB_ML_LABELS"),
      ("value", .scalar .doubleQuoted "app=metallb,component=speaker")]]),
  ("ports", ports),
  ("securityContext", restrictions [
    ("add", .sequence [plain "NET_RAW"]),
    ("drop", .sequence [plain "ALL"])])]

/-- The specification of the controller. -/
def controllerSpec : List (String × Outline) := [
  ("revisionHistoryLimit", plain "3"),
  ("selector", podSelector "controller"),
  ("template", .mapping [
    ("metadata", podMetadata "controller"),
    ("spec", .mapping [
      ("serviceAccountName", plain "controller"),
      ("terminationGracePeriodSeconds", plain "0"),
      ("securityContext", plains [("runAsNonRoot", "true"), ("runAsUser", "65534")]),
      ("nodeSelector", nodeSelector),
      ("containers", .sequence [controllerContainer])])])]

/-- The specification of the speaker. -/
def speakerSpec : List (String × Outline) := [
  ("selector", podSelector "speaker"),
  ("template", .mapping [
    ("metadata", podMetadata "speaker"),
    ("spec", .mapping [
      ("serviceAccountName", plain "speaker"),
      ("terminationGracePeriodSeconds", plain "2"),
      ("hostNetwork", plain "true"),
      ("nodeSelector", nodeSelector),
      ("tolerations", .sequence [plains [
        ("key", "node-role.kubernetes.io/master"),
        ("effect", "NoSchedule"),
        ("operator", "Exists")]]),
      ("containers", .sequence [speakerContainer])])])]

/-- The account of a workload. -/
def account (name : String) : Part := ⟨"v1", "ServiceAccount", name, [("app", "metallb")], none⟩

/-- A workload. -/
def workload (kind name : String) (spec : List (String × Outline)) : Part :=
  ⟨"apps/v1", kind, name, workloadLabels name, some spec⟩

/-- The objects of the shipped manifest after the first one. -/
def laterParts : List Part := [
  account "speaker",
  workload "Deployment" "controller" controllerSpec,
  workload "DaemonSet" "speaker" speakerSpec]

/-- The objects of the shipped manifest. -/
def parts : List Part := account "controller" :: laterParts

set_option maxRecDepth 20000 in
/-- The shipped manifest is the text of its parts. -/
theorem shipped_eq : shipped =
    String.ofList (Outline.fieldLines 0 (account "controller").fields
      ++ Outline.laterLines (laterParts.map Part.fields)) := by
  rfl

/-! ## Placeholders -/

/-- The keys of the placeholders. -/
def keys : List String := ["ControllerImage", "SpeakerImage", "NameSpace"]

/-- What there is to know of a part before it is filled. -/
structure Part.Sound (part : Part) : Prop where
  /-- Its type, its name and its labels are texts without placeholders. -/
  texts : ∀ text ∈ part.apiVersion :: part.kind :: part.name :: part.labels.map Prod.snd,
    '\x7b' ∉ text.toList ∧ Yaml.Meaning.of text = .text
  /-- It is a template. -/
  template : (Outline.mapping part.fields).isTemplate keys = true
  /-- It is not nested too deep. -/
  low : (Outline.mapping part.fields).height ≤ Yaml.depthLimit

theorem Part.Sound.others {part : Part} (sound : part.Sound) :
    Outline.fieldsTemplates keys part.others = true := by
  have template := sound.template
  simp only [Part.fields, Outline.isTemplate, Outline.fieldsTemplates, Bool.and_eq_true] at template
  exact template.2.2.2.2

theorem Part.Sound.fill_low {part : Part} (sound : part.Sound) (values : TemplateValues) :
    ((Outline.mapping part.fields).fill values).height ≤ Yaml.depthLimit := by
  rw [Yaml.height_fill]
  exact sound.low

theorem sound_of_mem {part : Part} (member : part ∈ parts) : part.Sound := by
  have texts :
      ∀ part ∈ parts,
        ∀ text ∈ part.apiVersion :: part.kind :: part.name :: part.labels.map Prod.snd,
          '\x7b' ∉ text.toList ∧ Yaml.Meaning.of text = .text := by decide +kernel
  have templates : ∀ part ∈ parts, (Outline.mapping part.fields).isTemplate keys = true := by
    decide +kernel
  have low : ∀ part ∈ parts, (Outline.mapping part.fields).height ≤ Yaml.depthLimit := by
    decide +kernel
  exact ⟨texts part member, templates part member, low part member⟩

end PoolOperator.Manifest
