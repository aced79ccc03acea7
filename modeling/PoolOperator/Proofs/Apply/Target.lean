import Mathlib.Data.List.TakeWhile
import PoolOperator.Endpoint
import PoolOperator.Proofs.Apply.Log
import PoolOperator.Proofs.Merge.Merged
import PoolOperator.Proofs.Store.Cluster

/-!
# What an object is applied to

An object that is applied in a cluster is looked for and written by calls of their own, and
each call finds out anew where the object stands.  If the cluster always tells the same
about the kinds of the group, all requests are about one collection and one name
(`apply_aims`).  The object that replaces a live one is therefore written to the place
where the live one was read.
-/

namespace PoolOperator

/-! ## Operations in a cluster -/

/-- Surroundings whose store is a cluster. -/
def Surroundings.inCluster (surroundings : Surroundings Exchange) (defaultSpace : String) :
    Surroundings Exchange :=
  { surroundings with store := ClusterStore.answer defaultSpace }

/-- An operation goes on with the answer to its call. -/
theorem Surroundings.run_store {α : Type} (surroundings : Surroundings Exchange) (call : StoreCall)
    (next : (Demand.store call).Answer → Operation α) (metrics : Metrics) :
    surroundings.run (.ask (.store call) next) metrics =
      surroundings.store call >>= fun given => surroundings.run (next given) metrics :=
  Dialogue.bind_assoc (surroundings.store call) (fun given => .done (given, metrics))
    fun answered =>
    surroundings.run (next answered.1) answered.2

/-- What is asked of a cluster to answer some calls, one after another. -/
inductive AnsweredBy (defaultSpace : String) : List AnsweredCall → List AnsweredRequest → Prop
  /-- There is no call. -/
  | nil : AnsweredBy defaultSpace [] []
  /-- The first call is answered, and then the others. -/
  | cons {call : StoreCall} {given : call.Answer} {first others : List AnsweredRequest}
      {calls : List AnsweredCall}
      (runs : (ClusterStore.answer defaultSpace call).Runs first given)
      (rest : AnsweredBy defaultSpace calls others) :
      AnsweredBy defaultSpace (.of call given :: calls) (first ++ others)

theorem answeredBy_of_runs {α : Type} {surroundings : Surroundings Exchange} {defaultSpace : String}
    {operation : Operation α} (asks : operation.Asks Demand.IsCallOrCount)
    {metrics metrics' : Metrics} {log : List AnsweredRequest} {result : α}
    (runs : ((surroundings.inCluster defaultSpace).run operation metrics).Runs log
      (result, metrics')) :
    ∃ calls : List AnsweredCall, Transcript operation calls result
      ∧ AnsweredBy defaultSpace calls log := by
  induction operation generalizing metrics log with
  | done final =>
      obtain ⟨rfl, same⟩ := runs.of_done
      cases same
      exact ⟨[], .done result, .nil⟩
  | ask demand next induction =>
      cases demand with
      | store call =>
          rw [Surroundings.run_store] at runs
          obtain ⟨first, others, given, rfl, answered, rest⟩ := runs.of_bind
          obtain ⟨calls, transcript, answeredBy⟩ := induction given (asks.2 given) rest
          exact ⟨.of call given :: calls, .call given transcript, .cons answered answeredBy⟩
      | count counter label =>
          obtain ⟨calls, transcript, answeredBy⟩ := induction () (asks.2 ()) runs
          exact ⟨calls, .other (fun _ same => by cases same) () transcript, answeredBy⟩
      | _ => exact asks.1.elim

namespace AnsweredBy

variable {defaultSpace : String} {type : ObjectType} {answered : AnsweredCall}
  {calls : List AnsweredCall}
  {log : List AnsweredRequest}

theorem of_nil (answeredBy : AnsweredBy defaultSpace [] log) : log = [] := by
  cases answeredBy
  rfl

theorem of_cons (answeredBy : AnsweredBy defaultSpace (answered :: calls) log)
    (typed : answered.object.type? = some type) :
    ∃ first others : List AnsweredRequest, log = first ++ others
      ∧ ClusterStore.Sent defaultSpace type answered first
      ∧ AnsweredBy defaultSpace calls others := by
  generalize whole : answered :: calls = all at answeredBy
  cases answeredBy with
  | nil => cases whole
  | @cons call given first others calls' runs rest =>
      obtain ⟨rfl, rfl⟩ := List.cons.inj whole
      refine ⟨first, others, rfl, ClusterStore.sent_of_runs ?_ runs, rest⟩
      cases call <;> exact typed

/-- Every request was sent to answer one of the calls. -/
theorem exists_sent (answeredBy : AnsweredBy defaultSpace calls log)
    (typed : ∀ (call : StoreCall) (given : call.Answer), .of call given ∈ calls →
      call.object.type? = some type)
    {request : AnsweredRequest} (asked : request ∈ log) :
    ∃ (call : StoreCall) (given : call.Answer) (sent : List AnsweredRequest), .of call given ∈ calls
      ∧ ClusterStore.Sent defaultSpace type (.of call given) sent ∧ request ∈ sent
      ∧ sent ⊆ log := by
  induction answeredBy with
  | nil => cases asked
  | @cons call given first others calls runs rest induction =>
      rcases List.mem_append.mp asked with now | later
      · exact ⟨call, given, first, List.mem_cons_self,
          ClusterStore.sent_of_runs (typed call given List.mem_cons_self) runs, now,
          List.subset_append_left first others⟩
      · obtain ⟨call', given', sent, made, sent', member, within⟩ :=
          induction (fun call given made => typed call given (List.mem_cons_of_mem _ made)) later
        exact ⟨call', given', sent, List.mem_cons_of_mem _ made, sent', member,
          List.Subset.trans within (List.subset_append_right first others)⟩

end AnsweredBy

/-! ## One target -/

/-- Is a call about an object, or about one with the same type, namespace and name? -/
inductive Concerns (desired : Object) : StoreCall → Prop
  /-- The live object is looked for. -/
  | get : Concerns desired (.get desired)
  /-- The object is created as it is. -/
  | create : Concerns desired (.create desired)
  /-- The live object is replaced. -/
  | replace {merged : Object} (type : merged.type? = desired.type?)
      (space : merged.metadata.namespaceName = desired.metadata.namespaceName)
      (name : merged.metadata.name = desired.metadata.name) : Concerns desired (.replace merged)

/-- Is a request about an object of a collection? -/
inductive AimedAt (collection : Collection) (desired : Object) (name : String) : Request → Prop
  /-- The live object of the name is asked for. -/
  | get {address : String}
      (built : Address.ofText (collection.address ++ "/" ++ name) = .ok address) :
      AimedAt collection desired name ⟨.get, address, none⟩
  /-- The object is to be created in the collection. -/
  | create {address : String} {value : Value}
      (built : Address.ofText (collection.address ++ "?") = .ok address)
      (given : desired.toValue = .ok value) :
      AimedAt collection desired name ⟨.post, address, some ⟨ClusterStore.objectContent, value⟩⟩
  /-- An object of the same type, namespace and name is to be put in place of the live one of
  the name. -/
  | replace {merged : Object} {address : String} {value : Value}
      (concerns : Concerns desired (.replace merged))
      (built : Address.ofText (collection.address ++ "/" ++ name ++ "?") = .ok address)
      (given : merged.toValue = .ok value) :
      AimedAt collection desired name ⟨.put, address, some ⟨ClusterStore.objectContent, value⟩⟩

section

variable {desired : Object}

theorem Concerns.object {call : StoreCall} (concerns : Concerns desired call) :
    call.object.type? = desired.type?
      ∧ call.object.metadata.namespaceName = desired.metadata.namespaceName
      ∧ call.object.metadata.name = desired.metadata.name := by
  cases concerns with
  | get => exact ⟨rfl, rfl, rfl⟩
  | create => exact ⟨rfl, rfl, rfl⟩
  | replace type space name => exact ⟨type, space, name⟩

theorem aimedAt_of_aimed {collection : Collection} {name : String}
    (named : desired.name? = some name) {call : StoreCall} (concerns : Concerns desired call)
    {request : Request} (aimed : ClusterStore.Aimed collection call request) :
    AimedAt collection desired name request := by
  cases aimed with
  | get named' built =>
      cases concerns
      rw [named] at named'
      cases named'
      exact .get built
  | create built given =>
      cases concerns
      exact .create built given
  | @replace merged name' address value named' built given =>
      have sameName := concerns.object.2.2
      rw [Object.name?] at named named'
      rw [StoreCall.object] at sameName
      rw [sameName, named] at named'
      cases named'
      exact .replace concerns built given

theorem concerns_merge {current merged : Object} (done : merge current desired = .ok merged) :
    Concerns desired (.replace merged) := by
  refine .replace (type?_merge done) ?_ ?_ <;> rw [metadata_merge done] <;> rfl

/-- Whatever the store answers, all calls concern the object that is applied. -/
theorem Course.concerns {calls : List AnsweredCall} {result : Except ApplyError Outcome}
    (course : Course desired calls result) {call : StoreCall} {given : call.Answer}
    (made : .of call given ∈ calls) : Concerns desired call := by
  cases call with
  | get object =>
      have applicable : desired.Applicable := by
        by_contra notApplicable
        rw [course.conduct.silent notApplicable] at made
        cases made
      obtain ⟨answer, writes, rfl, -, written⟩ := course.conduct.fetchedFirst applicable
      rcases List.mem_cons.mp made with same | later
      · obtain rfl : object = desired := congrArg AnsweredCall.object same
        exact .get
      · cases written _ later
  | create object =>
      obtain ⟨-, rfl⟩ := (course.conduct.create object).mp ⟨given, made⟩
      exact .create
  | replace merged =>
      obtain ⟨current, -, done, -⟩ := (course.mem_replace_iff merged).mp ⟨given, made⟩
      exact concerns_merge done

variable {defaultSpace name : String} {type : ObjectType} {kindsReply : Reply}
  {calls : List AnsweredCall}
  {log : List AnsweredRequest} {result : Except ApplyError Outcome}

theorem Concerns.typed {call : StoreCall} (concerns : Concerns desired call)
    (typed : desired.type? = some type) :
    call.object.type? = some type :=
  concerns.object.1.trans typed

/-- What is sent to answer one call asks for the kinds, or is about the collection that the
reply about the kinds tells. -/
theorem aimedAt_of_sent {call : StoreCall} {given : call.Answer} (named : desired.name? = some name)
    (concerns : Concerns desired call)
    (sent : ClusterStore.Sent defaultSpace type (.of call given) log)
    (steady : ∀ answered ∈ log, AsksForKinds type answered.1 → answered.2 = kindsReply) :
    ∀ answered ∈ log, AsksForKinds type answered.1 ∨ ∃ collection : Collection,
      kindsReply.Tells type (desired.metadata.namespaceName.getD defaultSpace) collection
        ∧ AimedAt collection desired name answered.1 := by
  rcases sent.of_call with ⟨-, asks⟩ | ⟨kindsRequest, request, told, reply, collection, rfl, asks,
    tells, aimed, -⟩
  · exact fun answered asked => .inl (asks answered asked)
  · obtain rfl : told = kindsReply := steady ⟨kindsRequest, told⟩ List.mem_cons_self asks
    rw [concerns.object.2.1] at tells
    intro answered asked
    rcases List.mem_pair.mp asked with rfl | rfl
    · exact .inl asks
    · exact .inr ⟨collection, tells, aimedAt_of_aimed named concerns aimed⟩

theorem AsksForKinds.method_eq {request : Request} (asks : AsksForKinds type request) :
    request.method = .get := by
  obtain ⟨address, -, rfl⟩ := asks
  rfl

theorem presence_eq_some_iff {answer : Except ClusterError Object} {object : Object} :
    ClusterStore.presence answer = .ok (some object) ↔ answer = .ok object := by
  cases answer with
  | ok found => simp [ClusterStore.presence]
  | error error =>
      cases error with
      | reported response =>
          rw [ClusterStore.presence]
          split <;> simp
      | _ => simp [ClusterStore.presence]

/-- What is sent to find a live object ends with a request whose reply tells it. -/
theorem exists_fetch {current : Object}
    (sent : ClusterStore.Sent defaultSpace type (.get desired (.ok (some current))) log) :
    ∃ (kindsRequest : Request) (told reply : Reply) (collection : Collection)
        (name address : String),
      log = [⟨kindsRequest, told⟩, ⟨⟨.get, address, none⟩, reply⟩] ∧ AsksForKinds type kindsRequest
        ∧ told.Tells type (desired.metadata.namespaceName.getD defaultSpace) collection
        ∧ desired.name? = some name
        ∧ Address.ofText (collection.address ++ "/" ++ name) = .ok address
        ∧ reply.read Object.ofValue = .ok current := by
  have ofCall : ClusterStore.Sent defaultSpace type (.of (.get desired) (.ok (some current))) log :=
    sent
  rcases ofCall.of_call with ⟨failed, -⟩ | ⟨kindsRequest, request, told, reply, collection, rfl,
    asks, tells, aimed, given⟩
  · exact absurd rfl failed
  · cases aimed with
    | get named built =>
        exact ⟨kindsRequest, told, reply, collection, _, _, rfl, asks, tells, named, built,
          presence_eq_some_iff.mp given.symm⟩

/-- Only a call to replace something puts something in place of something else. -/
theorem exists_replace_of_put {call : StoreCall} {given : call.Answer}
    (sent : ClusterStore.Sent defaultSpace type (.of call given) log) {answered : AnsweredRequest}
    (asked : answered ∈ log) (put : answered.1.method = .put) :
    ∃ merged : Object, call = .replace merged := by
  rcases sent.of_call with ⟨-, asks⟩ | ⟨kindsRequest, request, told, reply, collection, rfl, asks,
    -, aimed, -⟩
  · rw [(asks answered asked).method_eq] at put
    cases put
  · rcases List.mem_pair.mp asked with rfl | rfl
    · rw [asks.method_eq] at put
      cases put
    · cases aimed with
      | get named built => cases put
      | create built given => cases put
      | replace named built given => exact ⟨_, rfl⟩

/-- What writes a merged object comes last of what is sent to replace the live one. -/
theorem exists_write {merged : Object} {answer : Except ApplyError Object}
    (sent : ClusterStore.Sent defaultSpace type (.replace merged answer) log)
    {answered : AnsweredRequest} (asked : answered ∈ log) (put : answered.1.method = .put) :
    ∃ (kindsRequest : Request) (told : Reply) (collection : Collection) (name : String),
      log = [⟨kindsRequest, told⟩, answered] ∧ AsksForKinds type kindsRequest
        ∧ told.Tells type (merged.metadata.namespaceName.getD defaultSpace) collection
        ∧ merged.name? = some name
        ∧ Address.ofText (collection.address ++ "/" ++ name ++ "?") = .ok answered.1.address
        ∧ ∃ value : Value, merged.toValue = .ok value
          ∧ answered.1.content = some ⟨ClusterStore.objectContent, value⟩ := by
  have ofCall : ClusterStore.Sent defaultSpace type (.of (.replace merged) answer) log := sent
  rcases ofCall.of_call with ⟨-, asks⟩ | ⟨kindsRequest, request, told, reply, collection, rfl, asks,
    tells, aimed, -⟩
  · rw [(asks answered asked).method_eq] at put
    cases put
  · rcases List.mem_pair.mp asked with rfl | rfl
    · rw [asks.method_eq] at put
      cases put
    · cases aimed with
      | replace named built given =>
          exact ⟨kindsRequest, told, collection, _, rfl, asks, tells, named, built, _, given, rfl⟩

end

/-! ## Addresses -/

theorem eq_of_ofText {text address : String} (built : Address.ofText text = .ok address) :
    address = String.ofList (text.toList.takeWhile (· ≠ '#')) := by
  rw [Address.ofText] at built
  split at built
  next long => cases built
  next short =>
    dsimp only at built
    split at built
    next allowed => exact (Except.ok.inj built).symm
    next forbidden => cases built

theorem pathOf_of_ofText {text address : String} (built : Address.ofText text = .ok address) :
    Endpoint.pathOf address = Endpoint.pathOf text := by
  rw [eq_of_ofText built, Endpoint.pathOf, Endpoint.pathOf, String.toList_ofList,
    List.takeWhile_takeWhile]
  congr 2
  funext char
  simp

/-- An empty query does not change what an address is about. -/
theorem pathOf_query (text : String) : Endpoint.pathOf (text ++ "?") = Endpoint.pathOf text := by
  rw [Endpoint.pathOf, Endpoint.pathOf, String.toList_append, List.takeWhile_append]
  split
  next whole =>
    have query : "?".toList.takeWhile (fun char => char ≠ '?' && char ≠ '#') = [] := by decide
    rw [query, List.append_nil, (List.takeWhile_prefix _).eq_of_length whole]
  next part => rfl

/-! ## The target of an object -/

section

variable (defaultSpace : String) (desired : Object) (type : ObjectType) (name : String)
  (kindsReply : Reply)
  (log : List AnsweredRequest)

/-- Is nothing but the kinds asked for, or are all other requests about one collection and
one name?  `kindsReply` is what the cluster tells about the kinds. -/
def AimsAtOne : Prop :=
  (∀ answered ∈ log, AsksForKinds type answered.1)
    ∨ ∃ (kinds : KindList) (collection : Collection), kindsReply.read KindList.read = .ok kinds
      ∧ StandsIn defaultSpace desired type kinds collection
      ∧ ∀ answered ∈ log, AsksForKinds type answered.1 ∨ AimedAt collection desired name answered.1

/-- Does a request come last, and is what it writes merged from what was read at the same
place before? -/
def WritesBack (answered : AnsweredRequest) : Prop :=
  ∃ (earlier : List AnsweredRequest) (address : String) (reply : Reply) (current merged : Object),
    log = earlier ++ [answered] ∧ ⟨⟨.get, address, none⟩, reply⟩ ∈ earlier
      ∧ reply.read Object.ofValue = .ok current ∧ merge current desired = .ok merged
      ∧ (∃ value : Value, merged.toValue = .ok value
        ∧ answered.1.content = some ⟨ClusterStore.objectContent, value⟩)
      ∧ Endpoint.pathOf answered.1.address = Endpoint.pathOf address

/-- What is asked of a cluster to apply an object of a type and a name. -/
structure Aims : Prop where
  /-- The kinds are those of the two parts of the interface version. -/
  split : SplitsAt type.apiVersion type.group type.version
  /-- The object is merged by the same group. -/
  group : desired.groupKind = ⟨type.group, type.kind⟩
  /-- All requests are about the collection and the name of the object. -/
  requests : AimsAtOne defaultSpace desired type name kindsReply log
  /-- A merged object is only written to the place of the live one. -/
  replaced : ∀ answered ∈ log, answered.1.method = .put → WritesBack desired log answered

end

section

variable {defaultSpace name : String} {desired : Object} {type : ObjectType} {kindsReply : Reply}
  {calls : List AnsweredCall} {log : List AnsweredRequest} {result : Except ApplyError Outcome}

theorem aimsAtOne_of_answeredBy (typed : desired.type? = some type)
    (named : desired.name? = some name) (course : Course desired calls result)
    (answeredBy : AnsweredBy defaultSpace calls log)
    (steady : ∀ answered ∈ log, AsksForKinds type answered.1 → answered.2 = kindsReply) :
    AimsAtOne defaultSpace desired type name kindsReply log := by
  have each : ∀ answered ∈ log, AsksForKinds type answered.1 ∨ ∃ collection : Collection,
      kindsReply.Tells type (desired.metadata.namespaceName.getD defaultSpace) collection
        ∧ AimedAt collection desired name answered.1 := by
    intro answered asked
    obtain ⟨call, given, sent, made, ofCall, member, within⟩ :=
      answeredBy.exists_sent (fun call given made => (course.concerns made).typed typed) asked
    exact aimedAt_of_sent named (course.concerns made) ofCall
      (fun answered asked => steady answered (within asked)) answered member
  -- Every request tells a collection of its own, and the reply about the kinds makes them one.
  by_cases told : ∃ collection : Collection,
      kindsReply.Tells type (desired.metadata.namespaceName.getD defaultSpace) collection
  · obtain ⟨collection, tells⟩ := told
    obtain ⟨kinds, read, found⟩ := tells
    refine .inr ⟨kinds, collection, read, standsIn_of_collection? found, fun answered asked => ?_⟩
    rcases each answered asked with asks | ⟨other, tells', aimed⟩
    · exact .inl asks
    · exact .inr (tells'.eq ⟨kinds, read, found⟩ ▸ aimed)
  · refine .inl fun answered asked => ?_
    rcases each answered asked with asks | ⟨collection, tells, -⟩
    · exact asks
    · exact absurd ⟨collection, tells⟩ told

/-- A live object is read and written at one place, because both calls were told the same about
the kinds. -/
theorem writesBack_of_sent {current merged : Object} {answer : Except ApplyError Object}
    {fetch write : List AnsweredRequest} (done : merge current desired = .ok merged)
    (fetched : ClusterStore.Sent defaultSpace type (.get desired (.ok (some current))) fetch)
    (written : ClusterStore.Sent defaultSpace type (.replace merged answer) write)
    (steady : ∀ answered ∈ fetch ++ write, AsksForKinds type answered.1 → answered.2 = kindsReply)
    {answered : AnsweredRequest} (asked : answered ∈ write) (put : answered.1.method = .put) :
    WritesBack desired (fetch ++ write) answered := by
  obtain ⟨kindsRequest, told, reply, collection, _, address, rfl, asks, tells, named,
    built, read⟩ :=
    exists_fetch fetched
  obtain ⟨kindsRequest', told', collection', _, rfl, asks', tells', named', built', content⟩ :=
    exists_write written asked put
  obtain rfl : told = kindsReply := steady ⟨kindsRequest, told⟩ (by simp) asks
  obtain rfl : told' = told := steady ⟨kindsRequest', told'⟩ (by simp) asks'
  obtain ⟨-, sameSpace, sameName⟩ := (concerns_merge done).object
  simp only [StoreCall.object] at sameSpace sameName
  rw [sameSpace] at tells'
  obtain rfl := tells.eq tells'
  rw [Object.name?, sameName] at named'
  obtain rfl := Option.some.inj (named.symm.trans named')
  refine ⟨[⟨kindsRequest, told'⟩, ⟨⟨.get, address, none⟩, reply⟩, ⟨kindsRequest', told'⟩],
    address, reply, current, merged, rfl, by simp, read, done, content, ?_⟩
  rw [pathOf_of_ofText built', pathOf_query, pathOf_of_ofText built]

theorem writesBack_of_answeredBy (typed : desired.type? = some type)
    (course : Course desired calls result) (answeredBy : AnsweredBy defaultSpace calls log)
    (steady : ∀ answered ∈ log, AsksForKinds type answered.1 → answered.2 = kindsReply)
    {answered : AnsweredRequest} (asked : answered ∈ log) (put : answered.1.method = .put) :
    WritesBack desired log answered := by
  obtain ⟨call, given, sent, made, ofCall, member, -⟩ :=
    answeredBy.exists_sent (fun call given made => (course.concerns made).typed typed) asked
  obtain ⟨merged, rfl⟩ := exists_replace_of_put ofCall member put
  cases course with
  | @changed current merged answer applicable done different =>
      obtain ⟨fetch, others, rfl, fetched, rest⟩ := answeredBy.of_cons typed
      obtain ⟨write, nothing, rfl, written, last⟩ := rest.of_cons ((type?_merge done).trans typed)
      obtain rfl := last.of_nil
      rw [List.append_nil] at asked steady ⊢
      rcases List.mem_append.mp asked with early | late
      · have ofGet : ClusterStore.Sent defaultSpace type (.of (.get desired) (.ok (some current)))
          fetch := fetched
        obtain ⟨_, same⟩ := exists_replace_of_put ofGet early put
        cases same
      · exact writesBack_of_sent done fetched written steady late put
  | _ => simp [AnsweredCall.of] at made

end

/-- If a cluster always tells the same about the kinds of the group, all requests that are
sent to apply an object are about the object.  None is sent if the object has no type. -/
theorem apply_aims {surroundings : Surroundings Exchange} {defaultSpace name : String}
    {desired : Object} {kindsReply : Reply} {metrics metrics' : Metrics}
    {log : List AnsweredRequest} {result : Except ApplyError Outcome}
    (named : desired.name? = some name)
    (runs : ((surroundings.inCluster defaultSpace).run (apply desired).run metrics).Runs log
      (result, metrics')) (steady : ∀ type : ObjectType, desired.type? = some type →
      ∀ answered ∈ log, AsksForKinds type answered.1 → answered.2 = kindsReply) :
    (desired.type? = none ∧ log = [] ∧ result = .error (.missingType desired.displayName)
        ∧ ClusterStore.RefusesUntyped defaultSpace desired)
      ∨ ∃ type : ObjectType, desired.type? = some type
        ∧ Aims defaultSpace desired type name kindsReply log := by
  obtain ⟨calls, transcript, answeredBy⟩ := answeredBy_of_runs (asks_apply desired) runs
  have course := course_of_transcript transcript
  cases typed : desired.type? with
  | none =>
      have typeless : desired.groupKind.kind = "" := by rw [Object.groupKind, typed]
      have failed : desired.label = .error (.missingType desired.displayName) :=
        Object.label_eq_error_iff.mpr (.inr ⟨by rw [named]; rfl, typeless, rfl⟩)
      rw [course.conduct.silent (Object.not_applicable_of_label failed)] at answeredBy
      exact .inl ⟨rfl, answeredBy.of_nil, course.failed_of_label failed,
        ClusterStore.refusesUntyped typed defaultSpace⟩
  | some type =>
      have steady := steady type typed
      exact .inr ⟨type, rfl, splitsAt_groupAndVersion type.apiVersion,
        Object.groupKind_of_type? typed,
        aimsAtOne_of_answeredBy typed named course answeredBy steady,
        fun _ => writesBack_of_answeredBy typed course answeredBy steady⟩

/-! ## A cluster with one object -/

/-- Surroundings where there is only a cluster. -/
def Surroundings.remote : Surroundings Exchange where
  store := ClusterStore.answer ""
  patchStatus _ _ _ := pure (.ok ())
  now := pure ""
  elapsed := pure (.zero false)

/-- What a cluster tells about its kinds. -/
def serviceKinds : Reply :=
  .answer 200 <|
    "\x7b\"groupVersion\":\"v1\",\"resources\":["
      ++ "\x7b\"name\":\"services\",\"kind\":\"Service\",\"namespaced\":true\x7d]\x7d"

/-- A cluster with one Service. -/
def oneService (request : Request) : Reply :=
  if request.address = "/api/v1" then serviceKinds
  else .answer 200
    "\x7b\"apiVersion\":\"v1\",\"kind\":\"Service\",\"metadata\":\x7b\"name\":\"web\"\x7d\x7d"

/-- A live Service is read and written at one place. -/
theorem apply_aims_oneService :
    let desired := webService none [("type", .str "ClusterIP")]
    ∃ (log : List AnsweredRequest) (result : Except ApplyError Outcome) (metrics' : Metrics),
      desired.name? = some "web"
        ∧ ((Surroundings.remote.inCluster "here").run (apply desired).run .empty).Runs log
          (result, metrics')
        ∧ (∀ type : ObjectType, desired.type? = some type →
          ∀ answered ∈ log, AsksForKinds type answered.1 → answered.2 = serviceKinds)
        ∧ (∃ type : ObjectType, desired.type? = some type
          ∧ Aims "here" desired type "web" serviceKinds log)
        ∧ log.map (fun answered => (answered.1.method, answered.1.address)) =
          [(.get, "/api/v1"), (.get, "/api/v1/namespaces/here/services/web"), (.get, "/api/v1"),
            (.put, "/api/v1/namespaces/here/services/web?")] := by
  intro desired
  let server (request : Request) : StateT Unit (StateM Unit) Reply := pure (oneService request)
  let applying := (Surroundings.remote.inCluster "here").run (apply desired).run .empty
  have honest : ∀ (request : Request) (log : List AnsweredRequest) (own state : Unit),
      (∀ answered ∈ log, answered.2 = oneService answered.1) →
      ∀ answered ∈ log ++ [⟨request, oneService request⟩], answered.2 = oneService answered.1 := by
    intro request log own state replies
    exact List.forall_mem_append.mpr ⟨replies, List.forall_mem_singleton.mpr rfl⟩
  obtain ⟨log, ⟨result, metrics'⟩, own, after, runs, -, recorded, replies⟩ :=
    Dialogue.exists_runs_of_invariant server
      (fun log _ _ => ∀ answered ∈ log, answered.2 = oneService answered.1)
      honest applying [] () () (fun _ member => absurd member List.not_mem_nil)
  have named : desired.name? = some "web" := by decide
  have steady : ∀ type : ObjectType, desired.type? = some type →
      ∀ answered ∈ log, AsksForKinds type answered.1 → answered.2 = serviceKinds := by
    rintro type typed ⟨request, reply⟩ asked ⟨address, built, rfl⟩
    obtain rfl : (⟨"v1", "Service"⟩ : ObjectType) = type := Option.some.inj typed
    have place : Address.ofText (kindListAddress (ObjectType.group ⟨"v1", "Service"⟩)
        (ObjectType.version ⟨"v1", "Service"⟩)) = .ok "/api/v1" := by decide
    rw [place] at built
    cases built
    exact (replies _ asked).trans (if_pos rfl)
  have requests : ((((applying.run (Dialogue.recording server)).run []).run ()).run ()).1.1.2.map
      (fun answered => (answered.1.method, answered.1.address)) =
        [(.get, "/api/v1"), (.get, "/api/v1/namespaces/here/services/web"), (.get, "/api/v1"),
          (.put, "/api/v1/namespaces/here/services/web?")] := by
    decide +kernel
  rw [recorded] at requests
  refine ⟨log, result, metrics', named, runs, steady, ?_, requests⟩
  exact (apply_aims named runs steady).resolve_left fun ⟨untyped, _⟩ => by cases untyped

end PoolOperator
