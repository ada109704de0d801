import QueryRewriting.Proofs.Cluster.Scatter
import QueryRewriting.Proofs.Params.Mounting
import QueryRewriting.Proofs.Service.AllOrNothing

/-! # Parameters are seen by their rewriter alone

All parameters of a request stand in one tree. Names of rewriters and the namespace have no dots,
and the references of a request have names of their own; so what a rewriter looks up is looked up in
the parameters of its own reference, whatever the other references carry and wherever they stand. -/

namespace QueryRewriting

open Json (Fields)

/-! ## Names -/

/-- What is accepted as an id has no dot. -/
theorem not_mem_dot_of_idFault? {id : String} (accepted : idFault? id = none) :
    '.' ∉ id.toList := by
  unfold idFault? at accepted
  intro dotted
  have bad : id.toList.all isIdChar = false := by
    rw [List.all_eq_false]
    exact ⟨'.', dotted, by decide⟩
  rw [bad] at accepted
  split at accepted
  · cases accepted
  · split at accepted <;> cases accepted

/-- An accepted namespace has no dot. -/
theorem Settings.not_mem_dot_of_check {s : Settings} (accepted : s.check = .ok ()) :
    '.' ∉ s.paramNamespace.toList := by
  simp only [check, andThen_eq_ok_iff, refuse_eq_ok_iff] at accepted
  obtain ⟨_, _, _, _, _, _, _, _, _, _, plain, _⟩ := accepted
  simpa using (Bool.or_eq_false_iff.mp plain).2

/-! ## References -/

namespace RewriterRef

variable {ref : RewriterRef}

/-- The parameters of a reference by themselves; none if it has none. -/
def own (ref : RewriterRef) : Params := ⟨ref.params?.getD []⟩

/-- The parameters of a reference are listed as the fields of an object are: each key once, in
increasing order. -/
def Tidy (ref : RewriterRef) : Prop := ref.own.root.Increasing

/-- Fields that were read are in order. -/
theorem increasing_of_asFields {json : Json} {params : Fields}
    (reads : json.asFields = .ok params) :
    params.Increasing := by
  cases json with
  | object fields =>
      cases reads
      exact (Json.ordered_canonicalFields fields List.Pairwise.nil (List.forall_mem_nil _)).1
  | _ => cases reads

/-- Parameters that were read are in order. -/
theorem tidy_of_readFields {id : Option String} {params : Option Fields} {fields : Fields}
    (reads : readFields id params fields = .ok ref) (tidy : (params.getD []).Increasing) :
    ref.Tidy := by
  fun_induction readFields id params fields with
  | case1 id params =>
      cases id with
      | none => cases reads
      | some id =>
          cases reads
          exact tidy
  | case2 id params json rest ih =>
      obtain ⟨_, _, reads⟩ := Json.bind_eq_ok_iff.mp reads
      obtain ⟨text, _, reads⟩ := Json.bind_eq_ok_iff.mp reads
      exact ih text reads tidy
  | case3 id params json rest ih =>
      obtain ⟨_, _, reads⟩ := Json.bind_eq_ok_iff.mp reads
      obtain ⟨found, read, reads⟩ := Json.bind_eq_ok_iff.mp reads
      exact ih found reads (increasing_of_asFields read)
  | case4 id params entry rest _ _ ih => exact ih reads tidy

/-- Parameters are read in this order, however they are written. -/
theorem tidy_of_ofJson {json : Json} (reads : ofJson json = .ok ref) : ref.Tidy := by
  cases json with
  | text id =>
      cases reads
      exact List.Pairwise.nil
  | object fields =>
      rw [ofJson] at reads
      cases read : readFields none none fields with
      | error mismatch =>
          rw [read] at reads
          cases reads
      | ok found =>
          rw [read] at reads
          cases reads
          exact tidy_of_readFields read List.Pairwise.nil
  | _ => cases reads

end RewriterRef

/-- So are those of every rewriter of a list. -/
theorem RewriterRef.tidy_of_asList {json : Json} {refs : List RewriterRef}
    (reads : json.asList ofJson = .ok refs) : ∀ ref ∈ refs, ref.Tidy := by
  cases json with
  | list items =>
      intro ref member
      obtain ⟨_, _, read⟩ := Json.of_mem_mapM reads ref member
      exact tidy_of_ofJson read
  | _ => cases reads

/-- **The references of a request that was read are tidy.** -/
theorem RewriteRequest.tidy_of_ofJson {json : Json} {request : RewriteRequest}
    (reads : ofJson json = .ok request) : ∀ ref ∈ request.rewriters, ref.Tidy := by
  obtain ⟨record, _, reads⟩ := Json.bind_eq_ok_iff.mp reads
  obtain ⟨read, folds, reads⟩ := Json.bind_eq_ok_iff.mp reads
  have known : ∀ refs, read.rewriters = some refs → ∀ ref ∈ refs, ref.Tidy := by
    refine Json.Record.fold_preserves (fun state : RewriteRequestFields =>
      ∀ refs, state.rewriters = some refs → ∀ ref ∈ refs, ref.Tidy) folds ?_ nofun
    intro state next key value stepped known
    split at stepped
    · obtain ⟨_, _, same⟩ := Json.bind_eq_ok_iff.mp stepped
      cases same
      exact known
    · obtain ⟨refs, read, same⟩ := Json.bind_eq_ok_iff.mp stepped
      cases same
      rintro _ ⟨⟩
      exact RewriterRef.tidy_of_asList read
    · obtain ⟨_, _, same⟩ := Json.bind_eq_ok_iff.mp stepped
      cases same
      exact known
    · obtain ⟨_, _, same⟩ := Json.bind_eq_ok_iff.mp stepped
      cases same
      exact known
  obtain ⟨_, _, reads⟩ := Json.bind_eq_ok_iff.mp reads
  obtain ⟨refs, needed, reads⟩ := Json.bind_eq_ok_iff.mp reads
  obtain ⟨_, _, finishes⟩ := Json.bind_eq_ok_iff.mp reads
  have there : read.rewriters = some refs := by
    cases found : read.rewriters with
    | none =>
        rw [found] at needed
        cases needed
    | some others =>
        rw [found] at needed
        cases needed
        rfl
  unfold Json.Record.finish at finishes
  split at finishes
  · cases finishes
  · cases finishes
    exact known refs there

/-! ## The tree of a request -/

namespace Params

variable {tree : Params} {paramNamespace id : String} {refs : List RewriterRef} {ref : RewriterRef}

/-- The tree with the parameters of one more reference. -/
def mountRef (paramNamespace : String) (tree : Params) (ref : RewriterRef) : Params :=
  match ref.params? with
  | some params => tree.mount paramNamespace ref.id params
  | none => tree

/-- The parameters are mounted one rewriter after the other. -/
theorem mountAll_eq_foldl (paramNamespace : String) (refs : List RewriterRef) :
    mountAll paramNamespace refs = refs.foldl (mountRef paramNamespace) empty := rfl

/-- Mounting a rewriter sets its own parameters over those under its id. -/
theorem mounted_mountRef_self (paramNamespace : String) (tree : Params) (ref : RewriterRef) :
    (tree.mountRef paramNamespace ref).mounted paramNamespace ref.id =
      ⟨(tree.mounted paramNamespace ref.id).root.extend ref.own.root⟩ := by
  unfold mountRef RewriterRef.own
  cases ref.params? with
  | none => rfl
  | some params => exact mounted_mount_self tree paramNamespace ref.id params

/-- Mounting a rewriter leaves the parameters of the others. -/
theorem mounted_mountRef_of_ne (different : id ≠ ref.id) (paramNamespace : String) (tree : Params) :
    (tree.mountRef paramNamespace ref).mounted paramNamespace id =
      tree.mounted paramNamespace id := by
  unfold mountRef
  cases ref.params? with
  | none => rfl
  | some params => exact mounted_mount_of_ne different tree paramNamespace params

/-- References of other names touch nothing under a name. -/
theorem mounted_foldl_of_not_mem (absent : id ∉ refs.map (·.id)) :
    (refs.foldl (mountRef paramNamespace) tree).mounted paramNamespace id =
      tree.mounted paramNamespace id := by
  induction refs generalizing tree with
  | nil => rfl
  | cons ref rest ih =>
      rw [List.map_cons, List.mem_cons, not_or] at absent
      rw [List.foldl_cons, ih absent.2, mounted_mountRef_of_ne absent.1]

/-- Under the name of a reference stands what the reference has put there. -/
theorem mounted_foldl_of_mem (distinct : (refs.map (·.id)).Nodup) (member : ref ∈ refs) :
    (refs.foldl (mountRef paramNamespace) tree).mounted paramNamespace ref.id =
      ⟨(tree.mounted paramNamespace ref.id).root.extend ref.own.root⟩ := by
  induction refs generalizing tree with
  | nil => cases member
  | cons first rest ih =>
      rw [List.map_cons, List.nodup_cons] at distinct
      rw [List.foldl_cons]
      rcases List.mem_cons.mp member with rfl | later
      · rw [mounted_foldl_of_not_mem distinct.1, mounted_mountRef_self]
      · have different : ref.id ≠ first.id := fun same =>
          distinct.1 (same ▸ List.mem_map_of_mem later)
        rw [ih distinct.2 later, mounted_mountRef_of_ne different]

end Params

/-- **Under the name of each reference the tree of a request has the parameters of just this
reference.** -/
theorem mounted_mountAll {refs : List RewriterRef} {ref : RewriterRef}
    (accepted : checkRefs [] refs = .ok ()) (member : ref ∈ refs) (tidy : ref.Tidy)
    (paramNamespace : String) :
    (mountAll paramNamespace refs).mounted paramNamespace ref.id = ref.own := by
  obtain ⟨_, _, distinct⟩ := checkRefs_eq_ok_iff.mp accepted
  rw [Params.mountAll_eq_foldl, Params.mounted_foldl_of_mem distinct member, Params.mounted_empty]
  exact congrArg Params.mk (Json.Fields.extend_nil tidy)

/-! ## What a rewriter looks up -/

namespace RewriteContext

variable {context other : RewriteContext} {own : Params}

/-- Whatever is looked up in a context is looked up in some parameters. -/
structure Reads (context : RewriteContext) (own : Params) : Prop where
  bool : ∀ key, context.paramBool? key = own.bool? key
  single : ∀ key, context.paramSingle? key = own.single? key
  texts : ∀ key, context.paramTexts key = own.texts key

/-- A context reads parameters if it finds the same under every key. -/
theorem reads_of_get? (same : ∀ key, context.params.get? (context.paramPath key) = own.get? key) :
    context.Reads own where
  bool key := by rw [paramBool?, Params.bool?, same]; rfl
  single key := by rw [paramSingle?, Params.single?, Params.double?, same]; rfl
  texts key := by rw [paramTexts, Params.texts, same]; rfl

/-- Without parameters nothing is found. -/
theorem Reads.absent (reads : context.Reads .empty) (key : String) :
    context.paramBool? key = none ∧ context.paramSingle? key = none ∧
      context.paramTexts key = [] := by
  rw [reads.bool, reads.single, reads.texts, Params.bool?, Params.single?, Params.double?,
    Params.texts, Params.get?_empty]
  exact ⟨rfl, rfl, rfl⟩

/-- What two contexts give a rewriter to see is the same. -/
def Agrees (context other : RewriteContext) : Prop :=
  ∀ key, context.paramBool? key = other.paramBool? key ∧
    context.paramSingle? key = other.paramSingle? key ∧
    context.paramTexts key = other.paramTexts key

/-- Two contexts that read the same parameters agree. -/
theorem Reads.agrees (reads : context.Reads own) (others : other.Reads own) :
    context.Agrees other := fun key =>
  ⟨(reads.bool key).trans (others.bool key).symm, (reads.single key).trans (others.single key).symm,
    (reads.texts key).trans (others.texts key).symm⟩

/-- A plan is carried out alike in contexts that give the same to see. -/
theorem Agrees.apply_eq (agrees : context.Agrees other) (id : String) (plan : Plan) :
    (plan.rewriter id).apply context = (plan.rewriter id).apply other := by
  cases plan with
  | rest => rfl
  | replace table =>
      funext expansion
      simp only [Plan.rewriter, Kind.ReplaceTable.rewriter, (agrees "enabled").1]
  | add settings =>
      funext expansion
      simp only [Plan.rewriter, Kind.ClausesSettings.rewriter, (agrees "weight_factor").2.1]

end RewriteContext

namespace RewriteRequest

variable {request : RewriteRequest} {ref : RewriterRef} {found : Instance} {paramNamespace : String}

/-- What a member of a chain can see of a request. -/
def context (request : RewriteRequest) (paramNamespace : String) (found : Instance) :
    RewriteContext :=
  found.context request.partition paramNamespace (mountAll paramNamespace request.rewriters)

/-- The references of a request are accepted. -/
structure Accepted (request : RewriteRequest) : Prop where
  checked : checkRefs [] request.rewriters = .ok ()
  tidy : ∀ ref ∈ request.rewriters, ref.Tidy

/-- **A rewriter looks up what its own reference carries.** -/
theorem Accepted.reads (accepted : request.Accepted) (plain : '.' ∉ paramNamespace.toList)
    (member : ref ∈ request.rewriters) (named : found.id = ref.id) :
    (request.context paramNamespace found).Reads ref.own := by
  obtain ⟨ids, _, _⟩ := checkRefs_eq_ok_iff.mp accepted.checked
  have own := mounted_mountAll accepted.checked member (accepted.tidy ref member) paramNamespace
  have id : '.' ∉ found.id.toList := named ▸ not_mem_dot_of_idFault? (ids ref member)
  refine RewriteContext.reads_of_get? fun key => ?_
  rw [← own, ← named]
  exact Params.get?_mounted plain id key

end RewriteRequest

/-- Whatever a node runs for a request is named by one of its references, which have been checked.
-/
theorem Node.named_of_mem_applications {node : Node} {request : RewriteRequest} {store : Store}
    {application : Application} (orderly : node.registry.Orderly)
    (member : application ∈ node.applications request store) :
    checkRefs [] request.rewriters = .ok () ∧
      ∃ ref ∈ request.rewriters, application.applied.id = ref.id := by
  unfold applications at member
  cases prepared : node.prepare request with
  | error e =>
      rw [prepared] at member
      cases member
  | ok accepted =>
      obtain ⟨threshold, handle, registry⟩ := accepted
      obtain ⟨_, _, inside⟩ := quiet_of_prepare orderly.quiet prepared
      obtain ⟨_, _, answers⟩ := Registry.lookupAll_sound (request.rewriters.map (·.id)) inside
        fun key d (_ : store.Holds key d) => trivial
      rw [prepared] at member
      simp only at member
      split at member
      · cases member
      rename_i chain found
      obtain ⟨named, _⟩ := answers chain found
      have listed : application.applied.id ∈ request.rewriters.map (·.id) :=
        named ▸ List.mem_map_of_mem (applied_mem_of_mem_applyAll member)
      obtain ⟨ref, inside, same⟩ := List.mem_map.mp listed
      refine ⟨?_, ref, inside, same.symm⟩
      cases checked : checkRefs [] request.rewriters with
      | ok _ => rfl
      | error e =>
          rw [prepare, checked] at prepared
          cases prepared

/-- **Parameters are isolated.** Requests are read with tidy references, and what a node runs for a
request is named by a checked reference. Below an accepted namespace, whatever a rewriter looks up
under a key is what stands under this path in the parameters of its own reference; it finds nothing
if its reference has none. So two requests that have this reference in common, whatever their other
references carry and in whatever order they stand, give it the same to see, and a built-in rewriter
does the same for both. -/
theorem params_isolated :
    (∀ json request, RewriteRequest.ofJson json = .ok request →
      ∀ ref ∈ request.rewriters, ref.Tidy) ∧
    (∀ (node : Node) request store, node.registry.Orderly →
      ∀ application ∈ node.applications request store,
        checkRefs [] request.rewriters = .ok () ∧
          ∃ ref ∈ request.rewriters, application.applied.id = ref.id) ∧
    ∀ (settings : Settings) (request : RewriteRequest) (ref : RewriterRef) (found : Instance),
      settings.check = .ok () → request.Accepted → ref ∈ request.rewriters → found.id = ref.id →
      let context := request.context settings.paramNamespace found
      (∀ key, context.paramBool? key = ref.own.bool? key ∧
        context.paramSingle? key = ref.own.single? key ∧
        context.paramTexts key = ref.own.texts key) ∧
      (ref.params? = none → ∀ key, context.paramBool? key = none ∧
        context.paramSingle? key = none ∧ context.paramTexts key = []) ∧
      ∀ other : RewriteRequest, other.Accepted → ref ∈ other.rewriters →
        let elsewhere := other.context settings.paramNamespace found
        (∀ key, context.paramBool? key = elsewhere.paramBool? key ∧
          context.paramSingle? key = elsewhere.paramSingle? key ∧
          context.paramTexts key = elsewhere.paramTexts key) ∧
        (found.IsBuiltin → found.rewriter.apply context = found.rewriter.apply elsewhere) := by
  refine ⟨fun json request reads => RewriteRequest.tidy_of_ofJson reads,
    fun node request store orderly _ => Node.named_of_mem_applications orderly, ?_⟩
  intro settings request ref found checked accepted member named context
  -- Neither the namespace nor an id has a dot, so no path leads across from one to another.
  have plain := Settings.not_mem_dot_of_check checked
  have reads : context.Reads ref.own := accepted.reads plain member named
  refine ⟨fun key => ⟨reads.bool key, reads.single key, reads.texts key⟩, ?_, ?_⟩
  · intro none
    rw [RewriterRef.own, none] at reads
    exact reads.absent
  · intro other acceptedToo memberToo elsewhere
    have agrees : context.Agrees elsewhere :=
      reads.agrees (acceptedToo.reads plain memberToo named)
    refine ⟨agrees, fun builtin => ?_⟩
    obtain ⟨plan, _, made⟩ := builtin.plan
    rw [made]
    exact agrees.apply_eq found.id plan

/-! ### A table that is switched off beside a promotion -/

/-- A search whose first rewriter carries parameters, some of them below a key of its own. -/
def tunedSearch : RewriteRequest where
  partition := ⟨"products", 0⟩
  rewriters := [
    ⟨"spelling", some [("enabled", .bool false),
      ("fields", .object [("extra", .list [.text "body"])])]⟩,
    ⟨"promo", none⟩]
  query := .term "title" "labtop"
  threshold? := none

/-- The same rewriters in the other order, of which the promotion carries parameters as well. -/
def retunedSearch : RewriteRequest :=
  { tunedSearch with rewriters :=
    [⟨"promo", some [("enabled", .bool true), ("weight_factor", .number (.whole 2))]⟩,
      ⟨"spelling", some [("enabled", .bool false),
        ("fields", .object [("extra", .list [.text "body"])])]⟩] }

/-- The table sees its own parameters only, and stays switched off in both searches; the promotion
has none in the first. -/
theorem tunedSearch_isolated :
    (tunedSearch.context "qrw" spelling.asPlanned).paramTexts "fields.extra" = ["body"] ∧
      (tunedSearch.context "qrw" promo.asPlanned).paramBool? "enabled" = none ∧
      (retunedSearch.context "qrw" spelling.asPlanned).paramBool? "enabled" = some false ∧
      spelling.asPlanned.rewriter.apply (tunedSearch.context "qrw" spelling.asPlanned) =
        spelling.asPlanned.rewriter.apply (retunedSearch.context "qrw" spelling.asPlanned) := by
  have checked : threeMembers.check = .ok () := by rfl
  have tidy (ref : RewriterRef) (increasing : (ref.own.root.map (·.1)).Pairwise (· < ·)) :
      ref.Tidy := List.pairwise_map.mp increasing
  have accepted : tunedSearch.Accepted := by
    refine ⟨rfl, ?_⟩
    simp only [tunedSearch, List.forall_mem_cons]
    exact ⟨tidy _ (by decide), tidy _ (by decide), fun _ member => nomatch member⟩
  have acceptedToo : retunedSearch.Accepted := by
    refine ⟨rfl, ?_⟩
    simp only [retunedSearch, List.forall_mem_cons]
    exact ⟨tidy _ (by decide), tidy _ (by decide), fun _ member => nomatch member⟩
  obtain ⟨_, _, isolated⟩ := params_isolated
  obtain ⟨own, _, shared⟩ := isolated threeMembers tunedSearch _ spelling.asPlanned checked accepted
    List.mem_cons_self rfl
  obtain ⟨_, nothing, _⟩ := isolated threeMembers tunedSearch _ promo.asPlanned checked accepted
    (List.mem_cons_of_mem _ List.mem_cons_self) rfl
  obtain ⟨same, alike⟩ := shared retunedSearch acceptedToo
    (List.mem_cons_of_mem _ List.mem_cons_self)
  refine ⟨(own "fields.extra").2.2.trans ?_, (nothing rfl "enabled").1,
    (same "enabled").1.symm.trans ((own "enabled").1.trans ?_), alike rfl⟩
  · rfl
  · rfl

end QueryRewriting
