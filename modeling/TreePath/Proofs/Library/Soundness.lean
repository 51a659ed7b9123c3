/-
TreePath.Proofs.Library.Soundness — built-in functions keep to their signatures.

A handler of the library asks for arguments by their index, and nothing in its text says that they
are there; that is a matter of the signature it was registered with. An argument that is not there
counts as a fault of the handler, which no ordinary failure is. An entry is sound if its handler,
given arguments of the signature, gives a result of the declared type or fails with an ordinary
failure (`Entry.Sound`).

Most handlers give results of one type whatever their arguments are, so that only the number of
arguments counts (`Entry.Sound.of_count`). The sum is the exception: the sum of nothing is the
second argument, as it stands.
-/
import TreePath.Proofs.Function.Safe
import TreePath.Proofs.Session.TypedCalls

namespace TreePath

/-! ## Results -/

theorem Occurrence.accepts_zeroOrMore (n : Nat) : zeroOrMore.accepts n = true := by
  simp [accepts, least, most]

namespace SequenceType

variable {item : ItemType} {i : Item}

theorem accepts_optional (h : item.accepts i = true) :
    (⟨item, .zeroOrOne⟩ : SequenceType).accepts [i] = true := by
  simp [accepts, h, Occurrence.accepts, Occurrence.least, Occurrence.most]

theorem accepts_many {s : Sequence} (h : ∀ i ∈ s, item.accepts i = true) :
    (⟨item, .zeroOrMore⟩ : SequenceType).accepts s = true := by
  rw [accepts_iff]
  exact ⟨Occurrence.accepts_zeroOrMore _, h⟩

end SequenceType

namespace Library

/-- A result of the type, or an ordinary failure. -/
abbrev Yields (item : ItemType) (o : Occurrence) (r : Except Error Sequence) : Prop :=
  Safe (fun s => (⟨item, o⟩ : SequenceType).accepts s = true) r

/-! ## Arguments of handlers -/

variable {site : CallSite} {args : List Sequence}

/-- An argument that is there. -/
theorem safe_argument {i : Nat} (h : i < args.length) : Safe (fun _ => True) (argument args i) := by
  unfold argument
  rw [List.getElem?_eq_getElem h]
  trivial

theorem safe_contextItem (site : CallSite) : Safe (fun _ => True) site.contextItem := by
  unfold CallSite.contextItem
  split
  · trivial
  · exact .error (by decide)

theorem safe_subject (site : CallSite) (args : List Sequence) :
    Safe (fun _ => True) (subject site args) := by
  unfold subject
  split
  · trivial
  · exact (safe_contextItem site).map fun _ _ => trivial

theorem safe_nodeSubject (site : CallSite) (args : List Sequence) :
    Safe (fun _ => True) (nodeSubject site args) := by
  refine (safe_subject site args).bind fun item _ => ?_
  split
  · trivial
  · trivial
  · exact .error (by decide)

theorem safe_stringSubject (site : CallSite) (args : List Sequence) :
    Safe (fun _ => True) (stringSubject site args) :=
  (safe_subject site args).bind fun _ _ => trivial

/-! ## Truth -/

theorem yields_negation (site : CallSite) (args : List Sequence) (h : 0 < args.length) :
    Yields booleanType .one (negation site args) :=
  (safe_argument h).bind fun s _ => (Sequence.safe_truth s).bind fun _ _ => rfl

theorem yields_boolean (site : CallSite) (args : List Sequence) (h : 0 < args.length) :
    Yields booleanType .one (boolean site args) :=
  (safe_argument h).bind fun s _ => (Sequence.safe_truth s).bind fun _ _ => rfl

/-! ## Strings -/

theorem yields_string (site : CallSite) (args : List Sequence) :
    Yields stringType .one (string site args) :=
  (safe_stringSubject site args).bind fun _ _ => rfl

theorem yields_stringLength (site : CallSite) (args : List Sequence) :
    Yields integerType .one (stringLength site args) :=
  (safe_stringSubject site args).bind fun _ _ => rfl

theorem yields_normalizeSpace (site : CallSite) (args : List Sequence) :
    Yields stringType .one (normalizeSpace site args) :=
  (safe_stringSubject site args).bind fun _ _ => rfl

theorem safe_roundedArgument {i : Nat} (h : i < args.length) :
    Safe (fun _ => True) (roundedArgument args i) := by
  refine (safe_argument h).bind fun s _ => ?_
  split
  · exact (AtomicValue.safe_roundTo _ 0).bind fun w _ => w.safe_toDecimal
  · exact .error (by decide)

theorem yields_substring (site : CallSite) (args : List Sequence) (h : 1 < args.length) :
    Yields stringType .one (substring site args) := by
  refine (safe_roundedArgument h).bind fun start _ => ?_
  split
  · exact rfl
  · rename_i hlength
    refine (safe_roundedArgument (Nat.lt_of_not_le hlength)).bind fun length _ => ?_
    split
    · exact rfl
    · show Safe _ (Except.ok _)
      split <;> exact rfl

theorem yields_matches (site : CallSite) (args : List Sequence) :
    Yields booleanType .one («matches» site args) :=
  (Regex.safe_compile _ _).bind fun _ _ => rfl

theorem yields_stringJoin (site : CallSite) (args : List Sequence) (h : 0 < args.length) :
    Yields stringType .one (stringJoin site args) :=
  (safe_argument h).bind fun _ _ => rfl

/-- Pieces of a text are strings. -/
theorem accepts_strings (pieces : List (List Char)) :
    (⟨stringType, .zeroOrMore⟩ : SequenceType).accepts
      (pieces.map fun p => Item.atomic (.string (String.ofList p))) = true := by
  refine SequenceType.accepts_many fun i hi => ?_
  obtain ⟨p, -, rfl⟩ := List.mem_map.mp hi
  rfl

theorem yields_tokenize (site : CallSite) (args : List Sequence) :
    Yields stringType .zeroOrMore (tokenize site args) := by
  unfold tokenize
  simp only
  split
  · exact accepts_strings _
  · split
    · exact rfl
    · refine (Regex.safe_compile _ _).bind fun r _ => ?_
      split
      · exact .error (by decide)
      · exact accepts_strings _

/-! ## Sequences -/

theorem yields_count (site : CallSite) (args : List Sequence) (h : 0 < args.length) :
    Yields integerType .one (count site args) :=
  (safe_argument h).bind fun _ _ => rfl

theorem yields_empty (site : CallSite) (args : List Sequence) (h : 0 < args.length) :
    Yields booleanType .one (empty site args) :=
  (safe_argument h).bind fun _ _ => rfl

theorem yields_exists (site : CallSite) (args : List Sequence) (h : 0 < args.length) :
    Yields booleanType .one («exists» site args) :=
  (safe_argument h).bind fun _ _ => rfl

theorem safe_total (values : List AtomicValue) : Safe (fun _ => True) (total values) := by
  rw [total.eq_def]
  split
  · trivial
  · rename_i v rest
    split
    · exact (Safe.foldlM (R := fun _ => True) trivial fun w v _ =>
        (AtomicValue.safe_arithmetic .add w v).mono fun _ _ => trivial).bind fun _ _ => trivial
    · exact .error (by decide)

theorem accepts_value (v : AtomicValue) (o : Occurrence) (h : o.accepts 1 = true) :
    (⟨anyAtomic, o⟩ : SequenceType).accepts [.atomic v] = true := by
  rw [SequenceType.accepts_iff]
  refine ⟨h, fun i hi => ?_⟩
  rw [List.mem_singleton.mp hi]
  exact v.isInstanceOf_anyAtomic

/-- The sum is one value, or what stands in for the sum of nothing. -/
theorem yields_sum (site : CallSite) (args : List Sequence) {o : Occurrence} (h : 0 < args.length)
    (ho : o.accepts 1 = true)
    (hzero : ∀ s, args[1]? = some s → (⟨anyAtomic, o⟩ : SequenceType).accepts s = true) :
    Yields anyAtomic o (sum site args) := by
  refine (safe_argument h).bind fun s _ => (safe_total _).bind fun v _ => ?_
  split
  · exact accepts_value _ o ho
  · show (⟨anyAtomic, o⟩ : SequenceType).accepts _ = true
    cases h1 : args[1]? with
    | none => exact accepts_value _ o ho
    | some zero => exact hzero zero h1

theorem yields_average (site : CallSite) (args : List Sequence) (h : 0 < args.length) :
    Yields anyAtomic .zeroOrOne (average site args) := by
  refine (safe_argument h).bind fun s _ => (safe_total _).bind fun v _ => ?_
  split
  · exact rfl
  · exact (AtomicValue.safe_arithmetic _ _ _).bind fun _ _ => accepts_value _ _ rfl

theorem safe_extremeFrom (wanted : Ordering) (values : List AtomicValue) (best : AtomicValue) :
    Safe (fun _ => True) (extremeFrom wanted best values) := by
  induction values generalizing best with
  | nil => trivial
  | cons v rest ih =>
    rw [extremeFrom]
    exact (v.safe_compare best).bind fun _ _ => ih _

theorem yields_extreme (wanted : Ordering) (values : List AtomicValue) :
    Yields anyAtomic .zeroOrOne (extreme wanted values) := by
  cases values with
  | nil => exact rfl
  | cons v rest => exact (safe_extremeFrom wanted rest v).bind fun _ _ => accepts_value _ _ rfl

theorem yields_minimum (site : CallSite) (args : List Sequence) (h : 0 < args.length) :
    Yields anyAtomic .zeroOrOne (minimum site args) :=
  (safe_argument h).bind fun _ _ => yields_extreme _ _

theorem yields_maximum (site : CallSite) (args : List Sequence) (h : 0 < args.length) :
    Yields anyAtomic .zeroOrOne (maximum site args) :=
  (safe_argument h).bind fun _ _ => yields_extreme _ _

/-- Values are a sequence of values. -/
theorem accepts_values (values : List AtomicValue) :
    (⟨anyAtomic, .zeroOrMore⟩ : SequenceType).accepts (values.map .atomic) = true := by
  refine SequenceType.accepts_many fun i hi => ?_
  obtain ⟨v, -, rfl⟩ := List.mem_map.mp hi
  exact v.isInstanceOf_anyAtomic

/-- A function of values takes them as they are. -/
theorem admits_values (name : String) (item : ItemType) (o : Occurrence) (handler : Plain)
    (i : FunctionId) (v : List AtomicValue) :
    ((pureEntry name [values] item o handler).toFunction i).Admits [v.map .atomic] where
  count := rfl
  typed
    | 0, _, rfl => ⟨_, rfl, accepts_values v⟩

theorem yields_distinctValues (site : CallSite) (args : List Sequence) (h : 0 < args.length) :
    Yields anyAtomic .zeroOrMore (distinctValues site args) :=
  (safe_argument h).bind fun _ _ => accepts_values _

/-- For any items, only their number counts. -/
theorem accepts_items (s : Sequence) (o : Occurrence) (h : o.accepts s.length = true) :
    (⟨.anyItem, o⟩ : SequenceType).accepts s = true :=
  SequenceType.accepts_iff.mpr ⟨h, fun _ _ => rfl⟩

theorem yields_exactlyOne (site : CallSite) (args : List Sequence) (h : 0 < args.length) :
    Yields .anyItem .one (exactlyOne site args) := by
  refine (safe_argument h).bind fun s _ => ?_
  split
  · rename_i hlength
    exact accepts_items s _ (by rw [hlength]; rfl)
  · exact .error (by decide)

theorem yields_zeroOrOne (site : CallSite) (args : List Sequence) (h : 0 < args.length) :
    Yields .anyItem .zeroOrOne (zeroOrOne site args) := by
  refine (safe_argument h).bind fun s _ => ?_
  split
  · rename_i hlength
    refine accepts_items s _ ?_
    simpa [Occurrence.accepts, Occurrence.least, Occurrence.most] using hlength
  · exact .error (by decide)

theorem yields_oneOrMore (site : CallSite) (args : List Sequence) (h : 0 < args.length) :
    Yields .anyItem .oneOrMore (oneOrMore site args) := by
  refine (safe_argument h).bind fun s _ => ?_
  cases s with
  | nil => exact .error (by decide)
  | cons i rest =>
    refine accepts_items _ _ ?_
    simp [Occurrence.accepts, Occurrence.least, Occurrence.most]

theorem yields_reverse (site : CallSite) (args : List Sequence) (h : 0 < args.length) :
    Yields .anyItem .zeroOrMore (reverse site args) :=
  (safe_argument h).bind fun _ _ => accepts_items _ _ (Occurrence.accepts_zeroOrMore _)

theorem yields_head (site : CallSite) (args : List Sequence) (h : 0 < args.length) :
    Yields .anyItem .zeroOrOne (head site args) := by
  refine (safe_argument h).bind fun s _ => accepts_items _ _ ?_
  cases s <;> rfl

theorem yields_tail (site : CallSite) (args : List Sequence) (h : 0 < args.length) :
    Yields .anyItem .zeroOrMore (tail site args) :=
  (safe_argument h).bind fun _ _ => accepts_items _ _ (Occurrence.accepts_zeroOrMore _)

/-! ## Numbers -/

theorem yields_onNumber {op : AtomicValue → Except Error AtomicValue} (h : 0 < args.length)
    (hop : ∀ v, Safe (fun w => w.isNumeric = true) (op v)) :
    Yields decimalType .zeroOrOne (onNumber op args) := by
  refine (safe_argument h).bind fun s _ => ?_
  split
  · exact rfl
  · exact (hop _).bind fun w hw => SequenceType.accepts_optional hw
  · exact .error (by decide)

theorem yields_round (site : CallSite) (args : List Sequence) (h : 0 < args.length) :
    Yields decimalType .zeroOrOne (round site args) := by
  unfold round
  simp only
  split
  · exact (AtomicValue.safe_toInteger _).bind fun _ _ => yields_onNumber h fun v => v.safe_roundTo _
  · exact yields_onNumber h fun v => v.safe_roundTo 0

/-! ## Nodes -/

theorem yields_data (site : CallSite) (args : List Sequence) :
    Yields anyAtomic .zeroOrMore (data site args) := by
  unfold data
  split
  · exact (Sequence.safe_atomize _).bind fun _ _ => accepts_values _
  · exact (safe_contextItem site).bind fun i _ => i.safe_atomize.bind fun _ _ => accepts_values _

/-- A URI is a reference as well. -/
theorem safe_read_uriReference (s : String) :
    Safe (fun v => v.isInstanceOf .uriReference = true) (Datatype.uriReference.read s) := by
  unfold Datatype.read
  simp only
  cases Net.Uri.classify (Text.trim s.toList) with
  | none => exact .error (by decide)
  | some form => cases form <;> exact rfl

theorem yields_uriResult (uri : Option String) : Yields uriType .zeroOrOne (uriResult uri) := by
  cases uri with
  | none => exact rfl
  | some s =>
    have hread := safe_read_uriReference s
    unfold uriResult
    simp only
    generalize Datatype.uriReference.read s = r at hread ⊢
    exact hread.map fun v hv => SequenceType.accepts_optional hv

theorem yields_baseUri (site : CallSite) (args : List Sequence) :
    Yields uriType .zeroOrOne (baseUri site args) := by
  refine (safe_nodeSubject site args).bind fun n _ => ?_
  split
  · exact yields_uriResult _
  · exact rfl

theorem yields_documentUri (site : CallSite) (args : List Sequence) :
    Yields uriType .zeroOrOne (documentUri site args) :=
  (safe_nodeSubject site args).bind fun _ _ => yields_uriResult _

theorem yields_path (site : CallSite) (args : List Sequence) :
    Yields stringType .zeroOrOne (path site args) := by
  refine (safe_nodeSubject site args).bind fun n _ => ?_
  split <;> exact rfl

theorem yields_hasChildren (site : CallSite) (args : List Sequence) :
    Yields booleanType .one (hasChildren site args) :=
  (safe_nodeSubject site args).bind fun _ _ => rfl

theorem yields_root (site : CallSite) (args : List Sequence) :
    Yields .anyNode .zeroOrOne (root site args) := by
  refine (safe_nodeSubject site args).bind fun n _ => ?_
  split <;> exact rfl

/-! ## Entries -/

/-- Called with arguments of its signature, the handler gives a result of its signature, or it fails
with an ordinary failure. -/
def Entry.Sound (e : Entry) : Prop :=
  ∀ site args, (e.toFunction 0).Admits args →
    Safe (fun r => e.result.accepts r = true) (e.handler site args)

/-- There are at least as many arguments as parameters. -/
theorem Entry.length_le {e : Entry} (h : (e.toFunction 0).Admits args) :
    e.parameters.length ≤ args.length := by
  have hcount := h.count
  unfold Function.acceptsArity at hcount
  split at hcount
  · exact of_decide_eq_true hcount
  · exact Nat.le_of_eq (eq_of_beq hcount).symm

theorem Entry.Sound.of_count {e : Entry}
    (h : ∀ site args, e.parameters.length ≤ args.length →
      Safe (fun r => e.result.accepts r = true) (e.handler site args)) : e.Sound :=
  fun site args hargs => h site args (Entry.length_le hargs)

theorem sound_truthEntries : ∀ e ∈ truthEntries, e.Sound := by
  simp only [truthEntries, List.forall_mem_cons, List.not_mem_nil, false_implies, implies_true,
    and_true]
  exact ⟨.of_count fun _ _ _ => rfl, .of_count fun _ _ _ => rfl, .of_count yields_negation,
    .of_count yields_boolean⟩

theorem sound_stringEntries : ∀ e ∈ stringEntries, e.Sound := by
  simp only [stringEntries, List.forall_mem_cons, List.not_mem_nil, false_implies, implies_true,
    and_true]
  refine ⟨?string0, ?string, ?length0, ?length, ?space0, ?space, ?concat, ?contains, ?starts,
    ?ends, ?substring, ?substring3, ?upper, ?lower, ?pattern, ?pattern3, ?join, ?join2, ?tokenize,
    ?tokenize2, ?tokenize3⟩
  case string0 | string => exact .of_count fun site args _ => yields_string site args
  case length0 | length => exact .of_count fun site args _ => yields_stringLength site args
  case space0 | space => exact .of_count fun site args _ => yields_normalizeSpace site args
  case concat | upper | lower => exact .of_count fun _ _ _ => rfl
  case contains | starts | ends => exact .of_count fun _ _ _ => rfl
  case substring => exact .of_count yields_substring
  case substring3 =>
    exact .of_count fun site args h => yields_substring site args (Nat.le_of_succ_le h)
  case pattern | pattern3 => exact .of_count fun site args _ => yields_matches site args
  case join => exact .of_count yields_stringJoin
  case join2 =>
    exact .of_count fun site args h => yields_stringJoin site args (Nat.le_of_succ_le h)
  case tokenize | tokenize2 | tokenize3 =>
    exact .of_count fun site args _ => yields_tokenize site args

/-- The sum of one argument. -/
theorem sound_sum : (pureEntry "sum" [values] anyAtomic .one sum).Sound := by
  intro site args h
  have hlength : args.length = 1 := eq_of_beq h.count
  refine yields_sum site args (by rw [hlength]; exact Nat.one_pos) rfl fun s hs => ?_
  have hlt := (List.getElem?_eq_some_iff.mp hs).1
  omega

/-- The sum with a second argument, which is of the type of the result. -/
theorem sound_sum_zero : (pureEntry "sum" [values, parameter "zero" anyAtomic .zeroOrOne]
    anyAtomic .zeroOrOne sum).Sound := by
  intro site args h
  have hlength : args.length = 2 := eq_of_beq h.count
  refine yields_sum site args (by rw [hlength]; exact Nat.two_pos) rfl fun s hs => ?_
  obtain ⟨p, hp, haccepts⟩ := h.typed 1 s hs
  cases hp
  exact haccepts

theorem sound_sequenceEntries : ∀ e ∈ sequenceEntries, e.Sound := by
  simp only [sequenceEntries, List.forall_mem_cons, List.not_mem_nil, false_implies, implies_true,
    and_true]
  exact ⟨.of_count yields_count, .of_count yields_empty, .of_count yields_exists, sound_sum,
    sound_sum_zero, .of_count yields_average, .of_count yields_minimum, .of_count yields_maximum,
    .of_count yields_distinctValues, .of_count yields_exactlyOne, .of_count yields_zeroOrOne,
    .of_count yields_oneOrMore, .of_count yields_reverse, .of_count yields_head,
    .of_count yields_tail⟩

theorem sound_numberEntries : ∀ e ∈ numberEntries, e.Sound := by
  simp only [numberEntries, List.forall_mem_cons, List.not_mem_nil, false_implies, implies_true,
    and_true]
  exact ⟨.of_count fun _ _ h => yields_onNumber h AtomicValue.safe_abs,
    .of_count fun _ _ h => yields_onNumber h AtomicValue.safe_ceiling,
    .of_count fun _ _ h => yields_onNumber h AtomicValue.safe_floor,
    .of_count yields_round,
    .of_count fun site args h => yields_round site args (Nat.le_of_succ_le h)⟩

theorem sound_dataEntries : ∀ e ∈ dataEntries, e.Sound := by
  simp only [dataEntries, List.forall_mem_cons, List.not_mem_nil, false_implies, implies_true,
    and_true]
  exact ⟨.of_count fun site args _ => yields_data site args,
    .of_count fun site args _ => yields_data site args⟩

/-- A function of a node is sound in both of its forms. -/
theorem sound_nodeEntries {name : String} {item : ItemType} {o : Occurrence} {h : Plain}
    (hyields : ∀ site args, Yields item o (h site args)) :
    ∀ e ∈ nodeEntries name item o h, e.Sound := by
  simp only [nodeEntries, List.forall_mem_cons, List.not_mem_nil, false_implies, implies_true,
    and_true]
  exact ⟨.of_count fun _ _ _ => hyields _ _, .of_count fun _ _ _ => hyields _ _⟩

/-- **Every entry is sound.** -/
theorem sound_entries : ∀ e ∈ entries, e.Sound :=
  forall_mem_entries sound_truthEntries sound_stringEntries sound_sequenceEntries
    sound_numberEntries sound_dataEntries (sound_nodeEntries yields_baseUri)
    (sound_nodeEntries yields_documentUri) (sound_nodeEntries yields_path)
    (sound_nodeEntries yields_hasChildren) (sound_nodeEntries yields_root)
    (.of_count fun _ _ _ => rfl)

/-! ## Calls -/

variable {f : Function}

/-- The only function that repeats its last parameter has two. -/
theorem built_of_mem (hf : f ∈ functions) : f.Built := by
  obtain ⟨e, he, i, rfl⟩ := exists_entry hf
  have hentries : ∀ e ∈ entries, e.properties.unbounded = true → e.parameters ≠ [] := by decide
  exact Function.built_iff.mpr (hentries e he)

/-- The built-in functions are a family, so their calls are typed calls. -/
theorem family_functions : Family (· ∈ functions) where
  built _ := built_of_mem
  identity _ _ := eq_of_id_eq

/-- The handler of a built-in function calls no other function, and it keeps to the signature. -/
theorem safe_handler (hf : f ∈ functions) {args : List Sequence} (h : f.Admits args)
    (site : CallSite) : ∃ result, f.handler site args = .done result ∧
      Safe (fun r => f.result.accepts r = true) result := by
  obtain ⟨e, he, i, rfl⟩ := exists_entry hf
  exact ⟨e.handler site args, rfl, sound_entries e he site args ⟨h.count, h.typed⟩⟩

/-- The check of the result never fails. -/
theorem safe_answer (hf : f ∈ functions) {args : List Sequence} (h : f.Admits args)
    (site : CallSite) : Safe (fun r => f.result.accepts r = true) (f.answer site args) := by
  obtain ⟨result, hresult, hsafe⟩ := safe_handler hf h site
  unfold Function.answer
  rw [hresult]
  refine Safe.bind hsafe fun r hr => ?_
  rw [if_pos hr]
  exact hr

/-- How a call of a built-in function may fail. -/
theorem ordinary_of_call (hf : f ∈ functions) {args : List Sequence}
    (hn : f.acceptsArity args.length = true) {ctx : Context} {focus : Option Focus}
    {s s' : Session} {e : Error} (h : (f.call ctx args focus).runIn s = (.error e, s')) :
    e.code.Ordinary := by
  obtain ⟨callee, hcall⟩ := Function.call_eq ctx f args focus
  rw [hcall, Function.callWith_eq, Function.passing, Eval.runIn_bind, Eval.runIn_mapError,
    Eval.runIn_ofResult] at h
  have hconverted := (built_of_mem hf).safe_convertArguments hn
  cases hconvert : f.convertArguments args with
  | error e' =>
    rw [hconvert] at h hconverted
    cases h
    exact hconverted
  | ok converted =>
    rw [hconvert] at h hconverted
    have hanswer := safe_answer hf hconverted ⟨ctx.env, focus⟩
    simp only [Except.mapError] at h
    rw [Function.afterConversion_eq, Function.runIn_remembering, Function.passing,
      Eval.runIn_mapError, Function.runIn_invoke hf] at h
    split at h
    · cases h
    · cases hr : f.answer ⟨ctx.env, focus⟩ converted with
      | ok r =>
        rw [hr] at h
        cases h
      | error e' =>
        rw [hr] at h hanswer
        cases h
        exact hanswer

/-- **The library is sound.** A function that is found for a number of arguments, called with so
many of them, finds every argument that its handler asks for and gives results of the declared type.
The call does not fail for the number of its arguments or for a fault of its handler. -/
theorem resolved_call_sound {name : Name} {n : Nat} (hf : registry.resolve name n = .ok f)
    {args : List Sequence} (hargs : args.length = n) (ctx : Context) (focus : Option Focus) :
    (∀ converted, f.convertArguments args = .ok converted →
      ∃ result, f.handler ⟨ctx.env, focus⟩ converted = .done result ∧
        result ≠ .error missingArgument ∧ ∀ r, result = .ok r → f.result.accepts r = true) ∧
    ∀ s e s', (f.call ctx args focus).runIn s = (.error e, s') →
      e.code ≠ .unknownFunction ∧ e.code ≠ .functionFailure := by
  obtain ⟨hmem, hn⟩ := mem_functions_of_resolve hf
  rw [← hargs] at hn
  refine ⟨fun converted hconvert => ?_, fun s e s' h => ordinary_of_call hmem hn h⟩
  have hadmits := ((built_of_mem hmem).admits hconvert).2
  obtain ⟨result, hresult, hsafe⟩ := safe_handler hmem hadmits ⟨ctx.env, focus⟩
  refine ⟨result, hresult, ?_, ?_⟩
  · rintro rfl
    have hordinary : missingArgument.code.Ordinary := hsafe
    exact hordinary.2 rfl
  · rintro r rfl
    exact hsafe

/-- The sum with something that stands in for the sum of nothing. -/
def sumFunction : Function :=
  (pureEntry "sum" [values, parameter "zero" anyAtomic .zeroOrOne] anyAtomic .zeroOrOne
    sum).toFunction 29

set_option maxRecDepth 8000 in
theorem resolve_sum : registry.resolve (.function "sum") 2 = .ok sumFunction := by rfl

/-- Nothing may stand in for the sum of nothing. -/
theorem resolved_call_sound_of_sum :
    registry.resolve (.function "sum") 2 = .ok sumFunction ∧
    sumFunction.convertArguments [[], []] = .ok [[], []] ∧
    ∃ result, sumFunction.handler ⟨{ now := (⟨.first, .midnight⟩, .utc) }, none⟩ [[], []]
        = .done result ∧
      result ≠ .error missingArgument ∧
      ∀ r, result = .ok r → sumFunction.result.accepts r = true := by
  have hconvert : sumFunction.convertArguments [[], []] = .ok [[], []] := rfl
  let ctx : Context := ⟨{ now := (⟨.first, .midnight⟩, .utc) }, registry, true⟩
  have hlength : ([[], []] : List Sequence).length = 2 := rfl
  have hsound := resolved_call_sound resolve_sum hlength ctx none
  exact ⟨resolve_sum, hconvert, hsound.1 _ hconvert⟩

end Library

end TreePath
