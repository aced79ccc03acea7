import PoolOperator.Proofs.Apply.Transcript
import PoolOperator.Proofs.Cluster.Collection
import PoolOperator.Proofs.Dialogue
import PoolOperator.Proofs.Except
import PoolOperator.Store.Cluster

/-!
# Requests of the store calls

A call about an object with a type asks for the kinds of a group, and if the reply tells
the collection of the object, the call is made of that collection (`sent_of_runs`).  What
the reply tells depends on the type and the namespace of the object only, and not on the
call.  About an object without a type nothing is asked (`refusesUntyped`).
-/

namespace PoolOperator

/-- A request with its reply. -/
abbrev AnsweredRequest := Sigma fun _ : Request => Reply

/-- The object that a call is about. -/
def StoreCall.object : StoreCall → Object
  | .get object => object
  | .create object => object
  | .replace object => object

/-- What a reply to the request of a call means. -/
def StoreCall.reads : (call : StoreCall) → Reply → call.Answer
  | .get _, reply => ClusterStore.presence (reply.read Object.ofValue)
  | .create _, reply => (reply.read Object.ofValue).mapError .cluster
  | .replace _, reply => (reply.read Object.ofValue).mapError .cluster

/-- Does a request ask for the kinds in the group and the version of a type? -/
def AsksForKinds (type : ObjectType) (request : Request) : Prop :=
  ∃ address : String, Address.ofText (kindListAddress type.group type.version) = .ok address
    ∧ request = ⟨.get, address, none⟩

/-- Does a reply tell that objects of a type stand in a collection?  `space` is their
namespace, if they have any. -/
def Reply.Tells (reply : Reply) (type : ObjectType) (space : String)
    (collection : Collection) : Prop :=
  ∃ kinds : KindList, reply.read KindList.read = .ok kinds
    ∧ kinds.collection? type.kind space = some collection

theorem Reply.Tells.eq {reply : Reply} {type : ObjectType} {space : String}
    {collection other : Collection} (tells : reply.Tells type space collection)
    (tells' : reply.Tells type space other) :
    collection = other := by
  obtain ⟨kinds, read, found⟩ := tells
  obtain ⟨kinds', read', found'⟩ := tells'
  rw [read] at read'
  cases read'
  rw [found] at found'
  exact Option.some.inj found'

namespace ClusterStore

/-- What a call asks of a collection. -/
inductive Aimed (collection : Collection) : StoreCall → Request → Prop
  /-- The object of a name is asked for. -/
  | get {object : Object} {name address : String} (named : object.name? = some name)
      (built : Address.ofText (collection.address ++ "/" ++ name) = .ok address) :
      Aimed collection (.get object) ⟨.get, address, none⟩
  /-- An object is to be created. -/
  | create {object : Object} {address : String} {value : Value}
      (built : Address.ofText (collection.address ++ "?") = .ok address)
      (given : object.toValue = .ok value) :
      Aimed collection (.create object) ⟨.post, address, some ⟨objectContent, value⟩⟩
  /-- An object is to be put in place of the one of its name. -/
  | replace {object : Object} {name address : String} {value : Value}
      (named : object.name? = some name)
      (built : Address.ofText (collection.address ++ "/" ++ name ++ "?") = .ok address)
      (given : object.toValue = .ok value) :
      Aimed collection (.replace object) ⟨.put, address, some ⟨objectContent, value⟩⟩

section

variable {α : Type} {log : List AnsweredRequest}

theorem runs_request {request : Request} {read : Value → Except ReadError α}
    {result : Except ClusterError α} (runs : (ClusterCall.send request read).run.Runs log result) :
    ∃ reply : Reply, log = [⟨request, reply⟩] ∧ result = reply.read read := by
  obtain ⟨reply, others, rfl, rest⟩ := runs.of_ask
  obtain ⟨rfl, rfl⟩ := rest.of_done
  exact ⟨reply, rfl, rfl⟩

/-- A request is sent if it can be written. -/
theorem runs_send {method : RequestMethod} {address : String} {content : Option RequestContent}
    {read : Value → Except ReadError α} {result : Except ClusterError α}
    (runs : (send method address content read).run.Runs log result) :
    (log = [] ∧ ∃ reason : String, result = .error (.unwritable reason))
      ∨ ∃ (address' : String) (reply : Reply), Address.ofText address = .ok address'
        ∧ log = [⟨⟨method, address', content⟩, reply⟩] ∧ result = reply.read read := by
  rw [send, request] at runs
  cases built : Address.ofText address with
  | error reason =>
      rw [built] at runs
      obtain ⟨rfl, rfl⟩ := runs.of_done
      exact .inl ⟨rfl, _, rfl⟩
  | ok address' =>
      rw [built] at runs
      obtain ⟨reply, rfl, rfl⟩ := runs_request runs
      exact .inr ⟨address', reply, rfl, rfl, rfl⟩

theorem runs_fetchKinds {type : ObjectType} {result : Except ClusterError KindList}
    (runs : (fetchKinds type.group type.version).run.Runs log result) :
    (∀ answered ∈ log, AsksForKinds type answered.1)
      ∧ ∀ kinds : KindList, result = .ok kinds →
        ∃ (request : Request) (reply : Reply), log = [⟨request, reply⟩]
          ∧ reply.read KindList.read = .ok kinds := by
  rw [fetchKinds] at runs
  cases built : Address.ofText (kindListAddress type.group type.version) with
  | error reason =>
      rw [built] at runs
      obtain ⟨rfl, rfl⟩ := runs.of_done
      exact ⟨fun answered member => absurd member List.not_mem_nil, fun kinds same => by cases same⟩
  | ok address =>
      rw [built] at runs
      obtain ⟨reply, rfl, rfl⟩ := runs_request runs
      exact ⟨List.forall_mem_singleton.mpr ⟨address, built, rfl⟩, fun kinds same =>
        ⟨_, reply, rfl, same⟩⟩

/-- What is made of the kinds of a group. -/
def collectionIn (type : ObjectType) (space : String) (kinds : KindList) : ClusterCall Collection :=
  match kinds.collection? type.kind space with
  | some collection => return collection
  | none => throw (.missingKind type.group type.version type.kind)

theorem collection_eq (type : ObjectType) (space : String) :
    type.collection space = fetchKinds type.group type.version >>= collectionIn type space := rfl

theorem runs_typeCollection {type : ObjectType} {space : String}
    {result : Except ClusterError Collection} (runs : (type.collection space).run.Runs log result) :
    (∀ answered ∈ log, AsksForKinds type answered.1)
      ∧ ∀ collection : Collection, result = .ok collection →
        ∃ (request : Request) (reply : Reply), log = [⟨request, reply⟩]
          ∧ reply.Tells type space collection := by
  rw [collection_eq] at runs
  rcases runs.of_bind_except with ⟨error, rfl, fetched⟩ | ⟨first, others, kinds, rfl, fetched, rest⟩
  · exact ⟨(runs_fetchKinds fetched).1, fun collection same => by cases same⟩
  · obtain ⟨asks, told⟩ := runs_fetchKinds fetched
    obtain ⟨request, reply, rfl, read⟩ := told kinds rfl
    rw [collectionIn] at rest
    cases there : kinds.collection? type.kind space with
    | none =>
        rw [there] at rest
        obtain ⟨rfl, rfl⟩ := rest.of_done
        exact ⟨asks, fun collection same => by cases same⟩
    | some collection =>
        rw [there] at rest
        obtain ⟨rfl, rfl⟩ := rest.of_done
        refine ⟨asks, fun other same => ⟨request, reply, rfl, kinds, read, ?_⟩⟩
        cases same
        exact there

/-- The collection of an object is found in the kinds of its group, or not at all. -/
theorem runs_collection {defaultSpace : String} {object : Object} {type : ObjectType}
    (typed : object.type? = some type) {result : Except ApplyError Collection}
    (runs : (collection defaultSpace object).run.Runs log result) :
    (∀ answered ∈ log, AsksForKinds type answered.1)
      ∧ ∀ collection : Collection, result = .ok collection →
        ∃ (request : Request) (reply : Reply), log = [⟨request, reply⟩]
          ∧ reply.Tells type (object.metadata.namespaceName.getD defaultSpace) collection := by
  rw [collection, typed] at runs
  obtain ⟨found, rfl, ofType⟩ := runs.of_map
  obtain ⟨asks, told⟩ := runs_typeCollection ofType
  exact ⟨asks, fun collection same => told collection (Except.mapError_eq_ok_iff.mp same)⟩

end

/-! ## Calls -/

/-- What is asked of the cluster to answer a call. -/
inductive Sent (defaultSpace : String) (type : ObjectType) :
    AnsweredCall → List AnsweredRequest → Prop
  /-- The call is not made, because there is no collection, no address, or no value to send. -/
  | failed {answered : AnsweredCall} {log : List AnsweredRequest} (failed : answered.error? ≠ none)
      (asks : ∀ request ∈ log, AsksForKinds type request.1) : Sent defaultSpace type answered log
  /-- The call is made of the collection that is told. -/
  | made {call : StoreCall} {kindsRequest request : Request} {kindsReply reply : Reply}
      {collection : Collection}
      (asks : AsksForKinds type kindsRequest)
      (tells : kindsReply.Tells type
        (call.object.metadata.namespaceName.getD defaultSpace) collection)
      (aimed : Aimed collection call request) :
      Sent defaultSpace type (.of call (call.reads reply))
      [⟨kindsRequest, kindsReply⟩, ⟨request, reply⟩]

/-- What is asked of a collection to answer a call, once it is known. -/
inductive AskedOf (collection : Collection) (call : StoreCall) :
    AnsweredCall → List AnsweredRequest → Prop
  /-- There is no address, or no value to send. -/
  | failed {answered : AnsweredCall} (failed : answered.error? ≠ none) :
      AskedOf collection call answered []
  /-- The call is made. -/
  | made {request : Request} (reply : Reply) (aimed : Aimed collection call request) :
      AskedOf collection call (.of call (call.reads reply)) [⟨request, reply⟩]

section

variable {α : Type} {object : Object} {collection : Collection} {log : List AnsweredRequest}

/-- What is done to get an object once its collection is known. -/
def getIn (object : Object) (collection : Collection) :
    ExceptT ApplyError Exchange (Option Object) := do
  let address ← addressIn collection object
  .mk (presence <$> (send .get address none Object.ofValue).run)

/-- What is done to create an object once its collection is known. -/
def createIn (object : Object) (collection : Collection) : ExceptT ApplyError Exchange Object := do
  let content ← written object
  (send .post (collection.address ++ "?") (some content) Object.ofValue).adapt .cluster

/-- What is done to replace an object once its collection is known. -/
def replaceIn (object : Object) (collection : Collection) : ExceptT ApplyError Exchange Object := do
  let address ← addressIn collection object
  let content ← written object
  (send .put (address ++ "?") (some content) Object.ofValue).adapt .cluster

theorem askedOf_getIn {given : Except ApplyError (Option Object)}
    (runs : (getIn object collection).run.Runs log given) :
    AskedOf collection (.get object) (.get object given) log := by
  rw [getIn, addressIn] at runs
  cases named : object.name? with
  | none =>
      rw [named] at runs
      obtain ⟨rfl, rfl⟩ := runs.of_done
      exact .failed (Option.some_ne_none _)
  | some name =>
      rw [named] at runs
      obtain ⟨result, rfl, sent⟩ := runs.of_map
      rcases runs_send sent with ⟨rfl, reason, rfl⟩ | ⟨address, reply, built, rfl, rfl⟩
      · exact .failed (Option.some_ne_none _)
      · exact .made reply (.get named built)

theorem askedOf_createIn {given : Except ApplyError Object}
    (runs : (createIn object collection).run.Runs log given) :
    AskedOf collection (.create object) (.create object given) log := by
  rw [createIn, written] at runs
  cases valued : object.toValue with
  | error reason =>
      rw [valued] at runs
      obtain ⟨rfl, rfl⟩ := runs.of_done
      exact .failed (Option.some_ne_none _)
  | ok value =>
      rw [valued] at runs
      obtain ⟨result, rfl, sent⟩ := runs.of_map
      rcases runs_send sent with ⟨rfl, reason, rfl⟩ | ⟨address, reply, built, rfl, rfl⟩
      · exact .failed (Option.some_ne_none _)
      · exact .made reply (.create built valued)

theorem askedOf_replaceIn {given : Except ApplyError Object}
    (runs : (replaceIn object collection).run.Runs log given) :
    AskedOf collection (.replace object) (.replace object given) log := by
  rw [replaceIn, addressIn, written] at runs
  cases named : object.name? with
  | none =>
      rw [named] at runs
      obtain ⟨rfl, rfl⟩ := runs.of_done
      exact .failed (Option.some_ne_none _)
  | some name =>
      rw [named] at runs
      cases valued : object.toValue with
      | error reason =>
          rw [valued] at runs
          obtain ⟨rfl, rfl⟩ := runs.of_done
          exact .failed (Option.some_ne_none _)
      | ok value =>
          rw [valued] at runs
          obtain ⟨result, rfl, sent⟩ := runs.of_map
          rcases runs_send sent with ⟨rfl, reason, rfl⟩ | ⟨address, reply, built, rfl, rfl⟩
          · exact .failed (Option.some_ne_none _)
          · exact .made reply (.replace named built valued)

/-- A call finds out the collection of its object, and then asks something of it. -/
theorem sent_of_collection {defaultSpace : String} {type : ObjectType} {call : StoreCall}
    (typed : call.object.type? = some type) {next : Collection → ExceptT ApplyError Exchange α}
    (answered : Except ApplyError α → AnsweredCall)
    (failing : ∀ error : ApplyError, (answered (.error error)).error? ≠ none)
    (later :
      ∀ {collection : Collection} {others : List AnsweredRequest} {given : Except ApplyError α},
        (next collection).run.Runs others given → AskedOf collection call (answered given) others)
    {given : Except ApplyError α}
    (runs : (ClusterStore.collection defaultSpace call.object >>= next).run.Runs log given) :
    Sent defaultSpace type (answered given) log := by
  rcases runs.of_bind_except with ⟨error, rfl, found⟩ | ⟨first, others, collection, rfl,
    found, rest⟩
  · exact .failed (failing error) (runs_collection typed found).1
  · obtain ⟨asks, told⟩ := runs_collection typed found
    obtain ⟨kindsRequest, kindsReply, rfl, tells⟩ := told collection rfl
    have asked := later rest
    generalize answered given = call at asked
    cases asked with
    | failed failed => exact .failed failed asks
    | made reply aimed => exact .made (asks _ List.mem_cons_self) tells aimed

end

/-- Every call is answered by what is asked of the cluster. -/
theorem sent_of_runs {defaultSpace : String} {type : ObjectType} {call : StoreCall}
    (typed : call.object.type? = some type) {log : List AnsweredRequest} {given : call.Answer}
    (runs : (answer defaultSpace call).Runs log given) :
    Sent defaultSpace type (.of call given) log := by
  cases call with
  | get object =>
      exact sent_of_collection typed (.get object) Option.some_ne_none askedOf_getIn runs
  | create object =>
      exact sent_of_collection typed (.create object) Option.some_ne_none askedOf_createIn runs
  | replace object =>
      exact sent_of_collection typed (.replace object) Option.some_ne_none askedOf_replaceIn runs

/-- A call is not made, or it is the second of two requests. -/
theorem Sent.of_call {defaultSpace : String} {type : ObjectType} {call : StoreCall}
    {given : call.Answer} {log : List AnsweredRequest}
    (sent : Sent defaultSpace type (.of call given) log) :
    ((AnsweredCall.of call given).error? ≠ none ∧ ∀ request ∈ log, AsksForKinds type request.1)
      ∨ ∃ (kindsRequest request : Request) (kindsReply reply : Reply) (collection : Collection),
        log = [⟨kindsRequest, kindsReply⟩, ⟨request, reply⟩] ∧ AsksForKinds type kindsRequest
          ∧ kindsReply.Tells type (call.object.metadata.namespaceName.getD defaultSpace) collection
          ∧ Aimed collection call request ∧ given = call.reads reply := by
  generalize whole : AnsweredCall.of call given = answered at sent
  cases sent with
  | failed failed asks => exact .inl ⟨failed, asks⟩
  | @made call' kindsRequest request kindsReply reply collection asks tells aimed =>
      obtain rfl : call = call' := by
        cases call <;> cases call' <;> cases whole <;> rfl
      obtain rfl : given = call.reads reply := by
        cases call <;> cases whole <;> rfl
      exact .inr ⟨kindsRequest, request, kindsReply, reply, collection, rfl, asks,
        tells, aimed, rfl⟩

/-! ## Objects without a type -/

/-- Is every call about an object refused without a request, because the object has no type? -/
structure RefusesUntyped (defaultSpace : String) (object : Object) : Prop where
  get : (get defaultSpace object).run = .done (.error (.missingType object.displayName))
  create : (create defaultSpace object).run = .done (.error (.missingType object.displayName))
  replace : (replace defaultSpace object).run = .done (.error (.missingType object.displayName))

theorem refusesUntyped {object : Object} (untyped : object.type? = none) (defaultSpace : String) :
    RefusesUntyped defaultSpace object := by
  have notFound : collection defaultSpace object = throw (.missingType object.displayName) := by
    rw [collection, untyped]
  refine ⟨?_, ?_, ?_⟩
  · rw [ClusterStore.get, notFound]
    rfl
  · rw [ClusterStore.create, notFound]
    rfl
  · rw [ClusterStore.replace, notFound]
    rfl

end ClusterStore

end PoolOperator
