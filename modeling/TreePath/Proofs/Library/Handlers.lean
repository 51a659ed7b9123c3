/-
TreePath.Proofs.Library.Handlers — what the built-in functions look at, and what they give.

A built-in function that is not marked as depending on the focus gives the same under every focus,
and one that is marked sees no more of the focus than the context item (`answer_congr`). What they
give does not leave the supply of the session (`hasItems_answer`): for most of them the declared
type of the result says so already, and the others give items of their arguments, values of nodes,
sums, the top of a tree, or the current time.
-/
import TreePath.Library.Registry
import TreePath.Proofs.Function.Registry
import TreePath.Proofs.Session.Supply

namespace TreePath

/-- What a call gives when its handler needs no other function and nothing is remembered. -/
def Function.answer (f : Function) (site : CallSite) (args : List Sequence) :
    Except Error Sequence :=
  match f.handler site args with
  | .done result => result.bind fun r => if f.result.accepts r then .ok r else .error f.wrongResult
  | .call .. => .error Function.tooDeep

namespace Library

/-! ## The functions -/

theorem exists_entry {f : Function} (h : f ∈ functions) :
    ∃ e ∈ entries, ∃ i, f = e.toFunction i := by
  obtain ⟨⟨e, i⟩, hmem, rfl⟩ := List.mem_map.mp h
  exact ⟨e, List.fst_mem_of_mem_zipIdx hmem, i, rfl⟩

/-- No two built-in functions have one identity. -/
theorem eq_of_id_eq {f g : Function} (hf : f ∈ functions) (hg : g ∈ functions)
    (h : f.id = g.id) : f = g := by
  obtain ⟨⟨e, i⟩, hmem, rfl⟩ := List.mem_map.mp hf
  obtain ⟨⟨e', j⟩, hmem', rfl⟩ := List.mem_map.mp hg
  have hij : i = j := h
  subst hij
  rw [List.mem_zipIdx_iff_getElem?] at hmem hmem'
  rw [hmem] at hmem'
  cases hmem'
  rfl

theorem mem_functions_of_resolve {name : Name} {n : Nat} {f : Function}
    (h : registry.resolve name n = .ok f) : f ∈ functions ∧ f.acceptsArity n = true := by
  obtain ⟨hmem, harity⟩ := Registry.mem_of_resolve h
  refine ⟨?_, harity⟩
  rcases Registry.mem_of_mem_registerAll hmem with hmem | hmem
  · exact absurd hmem List.not_mem_nil
  · exact hmem

theorem answer_toFunction (e : Entry) (i : FunctionId) (site : CallSite) (args : List Sequence) :
    (e.toFunction i).answer site args = (e.handler site args).bind fun r =>
      if e.result.accepts r then .ok r else .error (e.toFunction i).wrongResult := rfl

/-- The entries of the function that gives values. -/
def dataEntries : List Entry :=
  [focused "data" anyAtomic .zeroOrMore data, pureEntry "data" [items] anyAtomic .zeroOrMore data]

/-- The entry of the function that gives the current time. -/
def currentDateTimeEntry : Entry :=
  ⟨"current-dateTime", [], ⟨.atomic .dateTimeWithTimezone, .one⟩,
    { deterministic := true, contextDependent := true }, currentDateTime⟩

/-- What holds of the entries group by group holds of all of them. -/
theorem forall_mem_entries {P : Entry → Prop} (htruth : ∀ e ∈ truthEntries, P e)
    (hstring : ∀ e ∈ stringEntries, P e) (hsequence : ∀ e ∈ sequenceEntries, P e)
    (hnumber : ∀ e ∈ numberEntries, P e) (hdata : ∀ e ∈ dataEntries, P e)
    (hbaseUri : ∀ e ∈ nodeEntries "base-uri" uriType .zeroOrOne baseUri, P e)
    (hdocumentUri : ∀ e ∈ nodeEntries "document-uri" uriType .zeroOrOne documentUri, P e)
    (hpath : ∀ e ∈ nodeEntries "path" stringType .zeroOrOne path, P e)
    (hchildren : ∀ e ∈ nodeEntries "has-children" booleanType .one hasChildren, P e)
    (hroot : ∀ e ∈ nodeEntries "root" .anyNode .zeroOrOne root, P e)
    (hcurrent : P currentDateTimeEntry) : ∀ e ∈ entries, P e := by
  intro e he
  simp only [entries, List.mem_append, or_assoc] at he
  rcases he with h | h | h | h | h | h | h | h | h | h | h
  · exact htruth e h
  · exact hstring e h
  · exact hsequence e h
  · exact hnumber e h
  · exact hdata e h
  · exact hbaseUri e h
  · exact hdocumentUri e h
  · exact hpath e h
  · exact hchildren e h
  · exact hroot e h
  · rw [List.mem_singleton.mp h]
    exact hcurrent

/-! ## What handlers look at -/

/-- The handler takes no notice of the focus. -/
def Plain.IgnoresFocus (h : Plain) : Prop :=
  ∀ env focus focus' args, h ⟨env, focus⟩ args = h ⟨env, focus'⟩ args

/-- The handler takes notice of the context item, and only if it has no arguments. -/
def Plain.StandsIn (h : Plain) : Prop :=
  ∀ env focus focus' args, (args = [] → focus.map (·.item) = focus'.map (·.item)) →
    h ⟨env, focus⟩ args = h ⟨env, focus'⟩ args

/-- The entry says what its handler looks at. -/
def Entry.Honest (e : Entry) : Prop :=
  ∀ env focus focus' args, (e.toFunction 0).acceptsArity args.length = true →
    (e.properties.focusDependent = true → focus.map (·.item) = focus'.map (·.item)) →
    e.handler ⟨env, focus⟩ args = e.handler ⟨env, focus'⟩ args

theorem Entry.Honest.of_ignoresFocus {e : Entry} (h : Plain.IgnoresFocus e.handler) : e.Honest :=
  fun env focus focus' args _ _ => h env focus focus' args

theorem Entry.Honest.of_focusDependent {e : Entry} (h : Plain.StandsIn e.handler)
    (hf : e.properties.focusDependent = true) : e.Honest :=
  fun env focus focus' args _ hitem => h env focus focus' args fun _ => hitem hf

theorem Entry.Honest.of_parameters {e : Entry} (h : Plain.StandsIn e.handler)
    (hp : 0 < e.parameters.length) : e.Honest := by
  intro env focus focus' args harity _
  refine h env focus focus' args fun hnil => ?_
  subst hnil
  rw [Function.acceptsArity] at harity
  split at harity
  · have : e.parameters.length ≤ 0 := of_decide_eq_true harity
    omega
  · have : 0 = e.parameters.length := eq_of_beq harity
    omega

theorem contextItem_congr {env : Environment} {focus focus' : Option Focus}
    (h : focus.map (·.item) = focus'.map (·.item)) :
    (CallSite.mk env focus).contextItem = (CallSite.mk env focus').contextItem := by
  cases focus <;> cases focus' <;> simp_all [CallSite.contextItem]

theorem subject_congr {env : Environment} {focus focus' : Option Focus} {args : List Sequence}
    (h : args = [] → focus.map (·.item) = focus'.map (·.item)) :
    subject ⟨env, focus⟩ args = subject ⟨env, focus'⟩ args := by
  cases args with
  | nil => simp only [subject, contextItem_congr (h rfl)]
  | cons s rest => rfl

theorem nodeSubject_congr {env : Environment} {focus focus' : Option Focus}
    {args : List Sequence} (h : args = [] → focus.map (·.item) = focus'.map (·.item)) :
    nodeSubject ⟨env, focus⟩ args = nodeSubject ⟨env, focus'⟩ args := by
  rw [nodeSubject, subject_congr h, ← nodeSubject]

theorem string_standsIn : Plain.StandsIn string := fun _ _ _ _ h => by
  simp only [string, stringSubject, subject_congr h]

theorem stringLength_standsIn : Plain.StandsIn stringLength := fun _ _ _ _ h => by
  simp only [stringLength, stringSubject, subject_congr h]

theorem normalizeSpace_standsIn : Plain.StandsIn normalizeSpace := fun _ _ _ _ h => by
  simp only [normalizeSpace, stringSubject, subject_congr h]

theorem data_standsIn : Plain.StandsIn data := by
  intro env focus focus' args h
  cases args with
  | nil => simp only [data, contextItem_congr (h rfl)]
  | cons s rest => rfl

theorem baseUri_standsIn : Plain.StandsIn baseUri := fun _ _ _ _ h => by
  simp only [baseUri, nodeSubject_congr h]

theorem documentUri_standsIn : Plain.StandsIn documentUri := fun _ _ _ _ h => by
  simp only [documentUri, nodeSubject_congr h]

theorem path_standsIn : Plain.StandsIn path := fun _ _ _ _ h => by
  simp only [path, nodeSubject_congr h]

theorem hasChildren_standsIn : Plain.StandsIn hasChildren := fun _ _ _ _ h => by
  simp only [hasChildren, nodeSubject_congr h]

theorem root_standsIn : Plain.StandsIn root := fun _ _ _ _ h => by
  simp only [root, nodeSubject_congr h]

/-- A function of a node is honest in both of its forms. -/
theorem honest_nodeEntries {name : String} {item : ItemType} {o : Occurrence} {h : Plain}
    (hs : Plain.StandsIn h) : ∀ e ∈ nodeEntries name item o h, e.Honest := by
  simp only [nodeEntries, List.forall_mem_cons, List.not_mem_nil, false_implies, implies_true,
    and_true]
  exact ⟨.of_focusDependent hs rfl, .of_parameters hs Nat.zero_lt_one⟩

theorem honest_truthEntries : ∀ e ∈ truthEntries, e.Honest := by
  simp only [truthEntries, List.forall_mem_cons, List.not_mem_nil, false_implies, implies_true,
    and_true]
  refine ⟨?_, ?_, ?_, ?_⟩
  all_goals exact .of_ignoresFocus fun _ _ _ _ => rfl

theorem honest_sequenceEntries : ∀ e ∈ sequenceEntries, e.Honest := by
  simp only [sequenceEntries, List.forall_mem_cons, List.not_mem_nil, false_implies, implies_true,
    and_true]
  refine ⟨?_, ?_, ?_, ?_, ?_, ?_, ?_, ?_, ?_, ?_, ?_, ?_, ?_, ?_, ?_⟩
  all_goals exact .of_ignoresFocus fun _ _ _ _ => rfl

theorem honest_numberEntries : ∀ e ∈ numberEntries, e.Honest := by
  simp only [numberEntries, List.forall_mem_cons, List.not_mem_nil, false_implies, implies_true,
    and_true]
  refine ⟨?_, ?_, ?_, ?_, ?_⟩
  all_goals exact .of_ignoresFocus fun _ _ _ _ => rfl

theorem honest_stringEntries : ∀ e ∈ stringEntries, e.Honest := by
  simp only [stringEntries, List.forall_mem_cons, List.not_mem_nil, false_implies, implies_true,
    and_true]
  refine ⟨.of_focusDependent string_standsIn rfl,
    .of_parameters string_standsIn (by decide),
    .of_focusDependent stringLength_standsIn rfl,
    .of_parameters stringLength_standsIn (by decide),
    .of_focusDependent normalizeSpace_standsIn rfl,
    .of_parameters normalizeSpace_standsIn (by decide), ?_, ?_, ?_, ?_, ?_, ?_, ?_, ?_, ?_,
    ?_, ?_, ?_, ?_, ?_, ?_⟩
  all_goals exact .of_ignoresFocus fun _ _ _ _ => rfl

theorem honest_dataEntries : ∀ e ∈ dataEntries, e.Honest := by
  simp only [dataEntries, List.forall_mem_cons, List.not_mem_nil, false_implies, implies_true,
    and_true]
  exact ⟨.of_focusDependent data_standsIn rfl, .of_parameters data_standsIn (by decide)⟩

theorem honest_entries : ∀ e ∈ entries, e.Honest :=
  forall_mem_entries honest_truthEntries honest_stringEntries honest_sequenceEntries
    honest_numberEntries honest_dataEntries (honest_nodeEntries baseUri_standsIn)
    (honest_nodeEntries documentUri_standsIn) (honest_nodeEntries path_standsIn)
    (honest_nodeEntries hasChildren_standsIn) (honest_nodeEntries root_standsIn)
    (.of_ignoresFocus fun _ _ _ _ => rfl)

/-- **Where the focus does not count, or shows one context item, a built-in function gives one
answer.** -/
theorem answer_congr {f : Function} (hf : f ∈ functions) {env : Environment}
    {focus focus' : Option Focus} {args : List Sequence}
    (harity : f.acceptsArity args.length = true)
    (h : f.properties.focusDependent = true → focus.map (·.item) = focus'.map (·.item)) :
    f.answer ⟨env, focus⟩ args = f.answer ⟨env, focus'⟩ args := by
  obtain ⟨e, he, i, rfl⟩ := exists_entry hf
  rw [answer_toFunction, answer_toFunction, honest_entries e he env focus focus' args harity h]

/-! ## What handlers give -/

variable {S : Supply}

/-- Results of the declared type are items that may occur, whatever the variables are. -/
def Entry.Keeps (S : Supply) (e : Entry) : Prop :=
  ∀ site args r, S.Serves { site.env with globals := [] } → (∀ f ∈ site.focus, S.HasItem f.item) →
    (∀ s ∈ args, S.HasItems s) → e.handler site args = .ok r → e.result.accepts r = true →
    S.HasItems r

/-- The declared type leaves out nodes and zoned date-times. -/
theorem Entry.Keeps.of_result {e : Entry} {t : Datatype} (hitem : e.result.item = .atomic t)
    (ht : Datatype.dateTimeWithTimezone.isSubtypeOf t = false) : e.Keeps S := by
  intro site args r _ _ _ _ haccepts i hi
  have hall := (Bool.and_eq_true_iff.mp haccepts).2
  have haccept := List.all_eq_true.mp hall i hi
  rw [hitem] at haccept
  cases i with
  | node n => cases haccept
  | atomic v => exact Supply.hasValue_of_isInstanceOf haccept ht

theorem hasItems_argument {args : List Sequence} (h : ∀ s ∈ args, S.HasItems s) {i : Nat}
    {s : Sequence} (hs : argument args i = .ok s) : S.HasItems s := by
  rw [argument] at hs
  split at hs
  · rename_i heq
    cases hs
    exact h s (List.mem_of_getElem? heq)
  · cases hs

/-- The handler gives some of the items of its first argument. -/
theorem Entry.Keeps.of_argument {e : Entry}
    (h : ∀ site args r, e.handler site args = .ok r →
      ∃ s, argument args 0 = .ok s ∧ ∀ i ∈ r, i ∈ s) : e.Keeps S := by
  intro site args r _ _ hargs hr _ i hi
  obtain ⟨s, hs, hsub⟩ := h site args r hr
  exact hasItems_argument hargs hs i (hsub i hi)

/-- The first argument, and what is made of it. -/
theorem argument_bind {β : Type} {args : List Sequence} {i : Nat}
    {k : Sequence → Except Error β} {r : β} (h : argument args i >>= k = .ok r) :
    ∃ s, argument args i = .ok s ∧ k s = .ok r := by
  cases ha : argument args i with
  | error e => rw [ha] at h; cases h
  | ok s => rw [ha] at h; exact ⟨s, rfl, h⟩

/-! ### Numbers and extremes -/

theorem isNumeric_foldlM_add {v w : AtomicValue} :
    ∀ {rest : List AtomicValue}, v.isNumeric = true →
      rest.foldlM (fun sum w => AtomicValue.arithmetic .add sum w) v = .ok w → w.isNumeric = true
  | [], hv, h => by
      cases h
      exact hv
  | u :: rest, hv, h => by
      rw [List.foldlM_cons] at h
      cases hs : AtomicValue.arithmetic .add v u with
      | error e => rw [hs] at h; cases h
      | ok sum =>
        rw [hs] at h
        exact isNumeric_foldlM_add (AtomicValue.isNumber_arithmetic hs).isNumeric h

theorem isNumeric_total {values : List AtomicValue} {v : AtomicValue}
    (h : total values = .ok (some v)) : v.isNumeric = true := by
  rw [total.eq_def] at h
  split at h
  · cases h
  · rename_i u rest
    split at h
    · rename_i hu
      cases hf : rest.foldlM (fun sum w => AtomicValue.arithmetic .add sum w) u with
      | error e => rw [hf] at h; cases h
      | ok w =>
        rw [hf] at h
        cases h
        exact isNumeric_foldlM_add hu hf
    · cases h

theorem mem_of_extremeFrom {wanted : Ordering} {v : AtomicValue} :
    ∀ {values : List AtomicValue} {best : AtomicValue},
      extremeFrom wanted best values = .ok v → v ∈ best :: values
  | [], best, h => by
      cases h
      exact List.mem_cons_self
  | w :: rest, best, h => by
      rw [extremeFrom] at h
      cases hc : w.compare best with
      | error e => rw [hc] at h; cases h
      | ok order =>
        rw [hc] at h
        have hmem := mem_of_extremeFrom h
        rcases List.mem_cons.mp hmem with heq | hmem
        · rw [heq]
          split
          · exact List.mem_cons_of_mem _ List.mem_cons_self
          · exact List.mem_cons_self
        · exact List.mem_cons_of_mem _ (List.mem_cons_of_mem _ hmem)

theorem mem_of_mem_extreme {wanted : Ordering} {values : List AtomicValue} {r : Sequence}
    (h : extreme wanted values = .ok r) : ∀ i ∈ r, ∃ v ∈ values, i = .atomic v := by
  intro i hi
  rw [extreme.eq_def] at h
  split at h
  · cases h
    exact absurd hi List.not_mem_nil
  · rename_i v rest
    cases he : extremeFrom wanted v rest with
    | error e => rw [he] at h; cases h
    | ok w =>
      rw [he] at h
      cases h
      exact ⟨w, mem_of_extremeFrom he, List.mem_singleton.mp hi⟩

theorem mem_of_mem_distinctFrom {v : AtomicValue} :
    ∀ {values kept : List AtomicValue}, v ∈ distinctFrom kept values → v ∈ values
  | w :: rest, kept, h => by
      rw [distinctFrom] at h
      split at h
      · exact List.mem_cons_of_mem w (mem_of_mem_distinctFrom h)
      · rcases List.mem_cons.mp h with rfl | h
        · exact List.mem_cons_self
        · exact List.mem_cons_of_mem w (mem_of_mem_distinctFrom h)

theorem mem_of_mem_atomics {s : Sequence} {v : AtomicValue} (h : v ∈ s.atomics) :
    Item.atomic v ∈ s := by
  obtain ⟨i, hi, heq⟩ := List.mem_filterMap.mp h
  cases i with
  | node n => cases heq
  | atomic w => cases heq; exact hi

/-! ### The functions of sequences -/

theorem keeps_sum {name : String} {parameters : List Parameter} {result : SequenceType}
    {properties : FunctionProperties} :
    (Entry.mk name parameters result properties sum).Keeps S := by
  intro site args r _ _ hargs h _
  obtain ⟨s, _, hs⟩ := argument_bind h
  cases ht : total s.atomics with
  | error e => rw [ht] at hs; cases hs
  | ok o =>
    rw [ht] at hs
    cases o with
    | some v =>
      cases hs
      exact .singleton (Supply.hasValue_of_isNumeric (isNumeric_total ht))
    | none =>
      cases hs
      cases h1 : args[1]? with
      | none => exact .singleton trivial
      | some zero => exact hargs zero (List.mem_of_getElem? h1)

theorem keeps_average {name : String} {parameters : List Parameter} {result : SequenceType}
    {properties : FunctionProperties} :
    (Entry.mk name parameters result properties average).Keeps S := by
  intro site args r _ _ _ h _
  obtain ⟨s, _, hs⟩ := argument_bind h
  cases ht : total s.atomics with
  | error e => rw [ht] at hs; cases hs
  | ok o =>
    rw [ht] at hs
    cases o with
    | none => cases hs; exact .nil
    | some v =>
      simp only [bind, Except.bind] at hs
      cases hd : AtomicValue.arithmetic .div v (countValue s.length) with
      | error e => rw [hd] at hs; cases hs
      | ok w =>
        rw [hd] at hs
        cases hs
        exact .singleton
          (Supply.hasValue_of_isNumeric (AtomicValue.isNumber_arithmetic hd).isNumeric)

/-- The smallest or largest value is one of the argument. -/
theorem keeps_extreme {e : Entry} {wanted : Ordering}
    (h : ∀ site args, e.handler site args
      = argument args 0 >>= fun s => extreme wanted s.atomics) : e.Keeps S := by
  refine .of_argument fun site args r hr => ?_
  rw [h] at hr
  obtain ⟨s, hs, hext⟩ := argument_bind hr
  refine ⟨s, hs, fun i hi => ?_⟩
  obtain ⟨v, hv, rfl⟩ := mem_of_mem_extreme hext i hi
  exact mem_of_mem_atomics hv

theorem keeps_sequenceEntries : ∀ e ∈ sequenceEntries, e.Keeps S := by
  simp only [sequenceEntries, List.forall_mem_cons, List.not_mem_nil, false_implies, implies_true,
    and_true]
  refine ⟨.of_result rfl rfl, .of_result rfl rfl, .of_result rfl rfl, keeps_sum, keeps_sum,
    keeps_average,
    keeps_extreme fun _ _ => rfl, keeps_extreme fun _ _ => rfl, ?_, ?_, ?_, ?_, ?_, ?_, ?_⟩
  all_goals
    refine .of_argument fun site args r hr => ?_
    obtain ⟨s, hs, hresult⟩ := argument_bind hr
    refine ⟨s, hs, fun i hi => ?_⟩
  · cases hresult
    obtain ⟨v, hv, rfl⟩ := List.mem_map.mp hi
    exact mem_of_mem_atomics (mem_of_mem_distinctFrom hv)
  · split at hresult <;> cases hresult
    exact hi
  · split at hresult <;> cases hresult
    exact hi
  · split at hresult <;> cases hresult
    exact hi
  · cases hresult
    exact List.mem_reverse.mp hi
  · cases hresult
    exact List.mem_of_mem_take hi
  · cases hresult
    exact List.mem_of_mem_drop hi

/-! ### The other functions -/

theorem keeps_truthEntries : ∀ e ∈ truthEntries, e.Keeps S := by
  simp only [truthEntries, List.forall_mem_cons, List.not_mem_nil, false_implies, implies_true,
    and_true]
  refine ⟨?_, ?_, ?_, ?_⟩
  all_goals exact .of_result rfl rfl

theorem keeps_stringEntries : ∀ e ∈ stringEntries, e.Keeps S := by
  simp only [stringEntries, List.forall_mem_cons, List.not_mem_nil, false_implies, implies_true,
    and_true]
  refine ⟨?_, ?_, ?_, ?_, ?_, ?_, ?_, ?_, ?_, ?_, ?_, ?_, ?_, ?_, ?_, ?_, ?_, ?_, ?_, ?_, ?_⟩
  all_goals exact .of_result rfl rfl

theorem keeps_numberEntries : ∀ e ∈ numberEntries, e.Keeps S := by
  simp only [numberEntries, List.forall_mem_cons, List.not_mem_nil, false_implies, implies_true,
    and_true]
  refine ⟨?_, ?_, ?_, ?_, ?_⟩
  all_goals exact .of_result rfl rfl

theorem hasItem_contextItem {site : CallSite} (hfocus : ∀ f ∈ site.focus, S.HasItem f.item)
    {i : Item} (h : site.contextItem = .ok i) : S.HasItem i := by
  rw [CallSite.contextItem] at h
  split at h
  · rename_i f hf
    cases h
    exact hfocus f hf
  · cases h

theorem hasItems_data {site : CallSite} {args : List Sequence} {r : Sequence}
    (hS : S.Serves { site.env with globals := [] }) (hfocus : ∀ f ∈ site.focus, S.HasItem f.item)
    (hargs : ∀ s ∈ args, S.HasItems s) (h : data site args = .ok r) : S.HasItems r := by
  cases args with
  | cons s rest =>
    simp only [data] at h
    cases ha : s.atomize with
    | error e => rw [ha] at h; cases h
    | ok values =>
      rw [ha] at h
      cases h
      exact Supply.hasItems_values
        (Supply.hasValue_of_mem_atomize hS (hargs s List.mem_cons_self) ha)
  | nil =>
    simp only [data] at h
    cases hc : site.contextItem with
    | error e => rw [hc] at h; cases h
    | ok i =>
      rw [hc] at h
      simp only [bind, Except.bind] at h
      cases ha : i.atomize with
      | error e => rw [ha] at h; cases h
      | ok o =>
        rw [ha] at h
        cases h
        refine Supply.hasItems_values fun v hv => ?_
        rw [Option.mem_toList.mp hv] at ha
        exact Supply.hasValue_of_atomize hS (hasItem_contextItem hfocus hc) ha

theorem keeps_dataEntries : ∀ e ∈ dataEntries, e.Keeps S := by
  simp only [dataEntries, List.forall_mem_cons, List.not_mem_nil, false_implies, implies_true,
    and_true]
  exact ⟨fun _ _ _ hS hfocus hargs h _ => hasItems_data hS hfocus hargs h,
    fun _ _ _ hS hfocus hargs h _ => hasItems_data hS hfocus hargs h⟩

theorem keeps_nodeEntries {name : String} {item : ItemType} {o : Occurrence} {h : Plain}
    {t : Datatype} (hitem : item = .atomic t)
    (ht : Datatype.dateTimeWithTimezone.isSubtypeOf t = false) :
    ∀ e ∈ nodeEntries name item o h, e.Keeps S := by
  simp only [nodeEntries, List.forall_mem_cons, List.not_mem_nil, false_implies, implies_true,
    and_true]
  exact ⟨.of_result hitem ht, .of_result hitem ht⟩

theorem within_nodeSubject {site : CallSite} {args : List Sequence} {n : Node}
    (hfocus : ∀ f ∈ site.focus, S.HasItem f.item) (hargs : ∀ s ∈ args, S.HasItems s)
    (h : nodeSubject site args = .ok (some n)) : n.Within S.forest := by
  rw [nodeSubject] at h
  cases hs : subject site args with
  | error e => rw [hs] at h; cases h
  | ok o =>
    rw [hs] at h
    have hitem : ∀ i, o = some i → S.HasItem i := by
      rintro i rfl
      cases args with
      | cons s rest =>
        simp only [subject, Except.ok.injEq] at hs
        exact hargs s List.mem_cons_self i (List.mem_of_mem_head? hs)
      | nil =>
        simp only [subject] at hs
        cases hc : site.contextItem with
        | error e => rw [hc] at hs; cases hs
        | ok j =>
          rw [hc] at hs
          cases hs
          exact hasItem_contextItem hfocus hc
    cases o with
    | none => cases h
    | some i =>
      cases i with
      | node m => cases h; exact hitem _ rfl
      | atomic v => cases h

theorem keeps_rootEntries : ∀ e ∈ nodeEntries "root" .anyNode .zeroOrOne root, e.Keeps S := by
  have hroot : ∀ {site args r}, (∀ f ∈ site.focus, S.HasItem f.item) →
      (∀ s ∈ args, S.HasItems s) → root site args = .ok r → S.HasItems r := by
    intro site args r hfocus hargs h
    rw [root] at h
    cases hn : nodeSubject site args with
    | error e => rw [hn] at h; cases h
    | ok o =>
      rw [hn] at h
      cases o with
      | none => cases h; exact .nil
      | some n =>
        cases h
        have hwithin := (within_nodeSubject hfocus hargs hn).top
        exact .singleton hwithin
  simp only [nodeEntries, List.forall_mem_cons, List.not_mem_nil, false_implies, implies_true,
    and_true]
  exact ⟨fun _ _ _ _ hfocus hargs h _ => hroot hfocus hargs h,
    fun _ _ _ _ hfocus hargs h _ => hroot hfocus hargs h⟩

theorem keeps_entries : ∀ e ∈ entries, e.Keeps S :=
  forall_mem_entries keeps_truthEntries keeps_stringEntries keeps_sequenceEntries
    keeps_numberEntries keeps_dataEntries (keeps_nodeEntries rfl rfl) (keeps_nodeEntries rfl rfl)
    (keeps_nodeEntries rfl rfl) (keeps_nodeEntries rfl rfl) keeps_rootEntries
    fun _ _ _ hS _ _ h _ => by cases h; exact .singleton hS.now

/-- **Built-in functions do not leave the supply.** -/
theorem hasItems_answer {f : Function} (hf : f ∈ functions) {site : CallSite}
    (hS : S.Serves { site.env with globals := [] }) (hfocus : ∀ f ∈ site.focus, S.HasItem f.item)
    {args : List Sequence} (hargs : ∀ s ∈ args, S.HasItems s) {r : Sequence}
    (h : f.answer site args = .ok r) : S.HasItems r := by
  obtain ⟨e, he, i, rfl⟩ := exists_entry hf
  rw [answer_toFunction] at h
  cases hr : e.handler site args with
  | error err => rw [hr] at h; cases h
  | ok s =>
    rw [hr] at h
    simp only [Except.bind] at h
    split at h
    · rename_i haccepts
      cases h
      exact keeps_entries e he site args _ hS hfocus hargs hr haccepts
    · cases h

end Library

end TreePath
