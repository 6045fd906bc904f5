import CachePolicy.Proofs.Pattern.Breaking
import CachePolicy.Proofs.Table

/-!
# Flags and counts in patterns

A flag equals the count zero or one wherever two values are compared, so a value in which
one stands for the other is equal to it.  A pattern tells them apart where it looks at
the value itself: an exact pattern at the value as a whole, a shape at each of its
elements.  What stands inside a list or a mapping is only compared.
-/

namespace CachePolicy

namespace Value

variable {p v w c : Value}

/-! ## Flags for counts -/

/-- The integer that a value is; a member of an integer enumeration is its own number. -/
def count? (v : Value) : Option Int :=
  match v.unwrapped with
  | int n => some n
  | _ => none

/-- The second value is the first one with flags for some of the counts that equal them, and
counts for some of the flags, at any depth of lists, tuples and values of mappings. -/
inductive Recounted : Value → Value → Prop
  | same (v : Value) : Recounted v v
  | flag {b : Bool} {c : Value} (counts : c.count? = some (b.toNat : Int)) : Recounted (.flag b) c
  | count {b : Bool} {c : Value} (counts : c.count? = some (b.toNat : Int)) : Recounted c (.flag b)
  | list {xs ys : List Value} (items : List.Forall₂ Recounted xs ys) :
      Recounted (.list xs) (.list ys)
  | tuple {xs ys : List Value} (items : List.Forall₂ Recounted xs ys) :
      Recounted (.tuple xs) (.tuple ys)
  | named (cls : String) {fields others : List (String × Value)}
      (names : fields.map Prod.fst = others.map Prod.fst)
      (values : List.Forall₂ Recounted (fields.map Prod.snd) (others.map Prod.snd)) :
      Recounted (.named cls fields) (.named cls others)
  | dict (readOnly : Bool) {entries others : List (Value × Value)}
      (keys : entries.map Prod.fst = others.map Prod.fst)
      (values : List.Forall₂ Recounted (entries.map Prod.snd) (others.map Prod.snd)) :
      Recounted (.dict readOnly entries) (.dict readOnly others)

/-- Of the two values one is a flag and the other is not, or two of their items are so, at any
depth of tuples. -/
inductive ToldApart : Value → Value → Prop
  | flag {v w : Value} (differ : v.isFlag ≠ w.isFlag) : ToldApart v w
  | item {v w x y : Value} {xs ys : List Value} (left : v.tupleItems? = some xs)
      (right : w.tupleItems? = some ys) (held : (x, y) ∈ xs.zip ys) (inner : ToldApart x y) :
      ToldApart v w

/-- Induction in which every pair of items, and of values under one key, is of the same kind. -/
theorem Recounted.induct {motive : Value → Value → Prop} (same : ∀ v, motive v v)
    (flag : ∀ b c, c.count? = some (b.toNat : Int) → motive (.flag b) c)
    (count : ∀ b c, c.count? = some (b.toNat : Int) → motive c (.flag b))
    (list : ∀ xs ys, Recounted (.list xs) (.list ys) → List.Forall₂ motive xs ys →
      motive (.list xs) (.list ys))
    (tuple : ∀ xs ys, List.Forall₂ motive xs ys → motive (.tuple xs) (.tuple ys))
    (named : ∀ cls fields others, Table.Alike motive fields others →
      motive (.named cls fields) (.named cls others))
    (dict : ∀ readOnly entries others,
      Recounted (.dict readOnly entries) (.dict readOnly others) →
        Table.Alike motive entries others →
          motive (.dict readOnly entries) (.dict readOnly others))
    (recounted : Recounted v w) : motive v w :=
  Recounted.rec (motive_1 := fun v w _ => motive v w)
    (motive_2 := fun xs ys _ => List.Forall₂ motive xs ys)
    same (flag _ _) (count _ _) (fun items each => list _ _ (.list items) each)
    (fun _ each => tuple _ _ each)
    (fun cls _ _ names _ each => named cls _ _ (.of_parts names each))
    (fun readOnly _ _ keys values each =>
      dict readOnly _ _ (.dict readOnly keys values) (.of_parts keys each))
    .nil (fun _ _ first rest => .cons first rest) recounted

/-! ## Comparison -/

/-- No comparison in which they are the first operand tells the two values apart. -/
structure ComparedAlike (v w : Value) : Prop where
  one : ∀ x, v.isOneMember x = w.isOneMember x
  answer : ∀ flipped x, v.compare flipped x = w.compare flipped x

theorem ComparedAlike.symm (alike : ComparedAlike v w) : ComparedAlike w v :=
  ⟨fun x => (alike.one x).symm, fun flipped x => (alike.answer flipped x).symm⟩

theorem objectEqual_of_not_object (plain : v.isObject = false) (w : Value) :
    v.objectEqual w = w.ownEquality?.getD (.ok false) := by
  have unasked : v.ownEquality? = none := by
    induction v using Value.inductRefusing with
    | refusing more value ih => exact ih plain
    | object words attributes equality untestable dump => cases plain
    | _ => rfl
  simp [objectEqual, plain, unasked]

/-! ### Scalars -/

theorem unwrapped_of_count {n : Int} (counts : c.count? = some n) : c.unwrapped = .int n := by
  unfold count? at counts
  split at counts
  · cases counts
    assumption
  · cases counts

theorem bare_of_unwrapped {s : Scalar} (scalar : v.unwrapped = .scalar s) :
    v.bare = .scalar s ∨
      ∃ mixin cls name value, v.bare = .member mixin cls name value ∧ mixin.content? = some s := by
  induction v using Value.inductRefusing with
  | refusing more value ih => exact ih scalar
  | scalar t => exact .inl scalar
  | member mixin cls name value =>
      cases mixin <;> cases scalar <;> exact .inr ⟨_, cls, name, value, rfl, rfl⟩
  | _ => cases scalar

/-- Only records are read before they are compared. -/
theorem readingFault?_of_unwrapped {s : Scalar} (scalar : v.unwrapped = .scalar s) (x : Value) :
    v.readingFault? x = none ∧ x.readingFault? v = none := by
  unfold readingFault?
  rcases bare_of_unwrapped scalar with bare | ⟨mixin, cls, name, value, bare, -⟩
  · rw [bare]
    cases x.bare <;> exact ⟨rfl, rfl⟩
  · rw [bare]
    cases x.bare <;> exact ⟨rfl, rfl⟩

/-- A value that is a scalar is compared as that, whatever its class and its refusals are. -/
theorem compare_of_unwrapped {s : Scalar} (scalar : v.unwrapped = .scalar s) (flipped : Bool)
    (x : Value) : v.compare flipped x = s.compare x := by
  induction v using Value.inductRefusing with
  | refusing more value ih =>
      obtain ⟨left, right⟩ := readingFault?_of_unwrapped (v := .refusing more value) scalar x
      rw [compare, left, right, ite_self, unlessRefused, ih scalar]
  | scalar t => cases scalar; rfl
  | member mixin cls name value => cases mixin <;> cases scalar <;> rfl
  | _ => cases scalar

theorem compare_flag (b : Bool) (flipped : Bool) (x : Value) :
    (flag b).compare flipped x = (int b.toNat).compare flipped x := by
  have equal : ∀ t, (Scalar.flag b).equal? t = (Scalar.int b.toNat).equal? t := by
    intro t
    have number : (Scalar.flag b).numeral? = (Scalar.int b.toNat).numeral? := rfl
    unfold Scalar.equal?
    rw [number]
    cases t.numeral? <;> rfl
  rw [compare, compare, Scalar.compare, Scalar.compare]
  cases x.unwrapped with
  | scalar t => simp only [equal]
  | _ => rfl

theorem comparedAlike_of_count {b : Bool} (counts : c.count? = some (b.toNat : Int)) :
    ComparedAlike (.flag b) c where
  one x := by
    unfold isOneMember
    rcases bare_of_unwrapped (unwrapped_of_count counts) with bare | ⟨mixin, _, _, _, bare, held⟩
    · rw [bare]
      cases x.bare <;> rfl
    · rw [bare]
      cases mixin <;> cases held
      rfl
  answer flipped x := by
    rw [compare_flag, compare_of_unwrapped (unwrapped_of_count counts), compare]

theorem compareItems_congr {xs ys : List Value} (alike : List.Forall₂ ComparedAlike xs ys)
    (flipped : Bool) (zs : List Value) :
    compareItems flipped xs zs = compareItems flipped ys zs := by
  induction alike generalizing zs with
  | nil => rfl
  | cons first _ ih =>
      cases zs with
      | nil => rfl
      | cons z zs => rw [compareItems, compareItems, first.one, first.answer, ih]

theorem compareFields_congr {fields others : List (String × Value)}
    (alike : Table.Alike ComparedAlike fields others) (flipped : Bool) (zs : List Value) :
    compareFields flipped fields zs = compareFields flipped others zs := by
  induction alike generalizing zs with
  | nil => rfl
  | cons first _ ih =>
      cases zs with
      | nil => rfl
      | cons z zs => rw [compareFields, compareFields, first.2.one, first.2.answer, ih]

theorem compareEntries_congr {entries others : List (Value × Value)}
    (alike : Table.Alike ComparedAlike entries others) (flipped : Bool)
    (zs : List (Value × Value)) :
    compareEntries flipped entries zs = compareEntries flipped others zs := by
  induction alike with
  | nil => rfl
  | @cons a b entries others first _ ih =>
      obtain ⟨key, x⟩ := a
      obtain ⟨_, y⟩ := b
      obtain ⟨rfl, first⟩ := first
      simp only [compareEntries, first.one, first.answer, ih]

theorem compareFound_congr {entries others : List (Value × Value)}
    (alike : Table.Alike ComparedAlike entries others) (flipped : Bool) (sought : Value × Value) :
    compareFound flipped entries sought = compareFound flipped others sought := by
  induction alike with
  | nil => rfl
  | @cons a b entries others first _ ih =>
      obtain ⟨key, x⟩ := a
      obtain ⟨_, y⟩ := b
      obtain ⟨rfl, first⟩ := first
      simp only [compareFound, first.one, first.answer, ih]

theorem Recounted.comparedAlike (recounted : Recounted v w) : ComparedAlike v w := by
  refine Recounted.induct (motive := ComparedAlike) ?same ?flag ?count ?list ?tuple ?named ?dict
    recounted
  case same => exact fun v => ⟨fun _ => rfl, fun _ _ => rfl⟩
  case flag => exact fun b c counts => comparedAlike_of_count counts
  case count => exact fun b c counts => (comparedAlike_of_count counts).symm
  case list =>
    intro xs ys _ items
    refine ⟨fun _ => rfl, fun flipped x => ?_⟩
    rw [compare, compare]
    cases x.bare with
    | list zs => simp only [items.length_eq, compareItems_congr items]
    | _ => rfl
  case tuple =>
    intro xs ys items
    refine ⟨fun _ => rfl, fun flipped x => ?_⟩
    unfold compare
    simp only [compareItems_congr items, objectEqual_of_not_object (v := .tuple _) rfl]
  case named =>
    intro cls fields others values
    refine ⟨fun _ => rfl, fun flipped x => ?_⟩
    unfold compare
    simp only [compareFields_congr values, objectEqual_of_not_object (v := .named _ _) rfl]
  case dict =>
    intro readOnly entries others _ values
    refine ⟨fun _ => rfl, fun flipped x => ?_⟩
    rw [compare, compare]
    cases x.bare with
    | dict readOnly' zs =>
        simp only [List.Forall₂.length_eq values, compareFound_congr values,
          compareEntries_congr values]
    | _ => rfl

theorem ToldApart.ne (apart : ToldApart v w) : v ≠ w := by
  induction apart with
  | flag differ =>
      rintro rfl
      exact differ rfl
  | item left right held _ ih =>
      rintro rfl
      cases left.symm.trans right
      rw [List.zip_eq_zipWith, List.zipWith_self, List.mem_map] at held
      obtain ⟨_, -, pair⟩ := held
      cases pair
      exact ih rfl

theorem toldApart_iff_isFlag (bare : v.tupleItems? = none) :
    ToldApart v w ↔ v.isFlag ≠ w.isFlag := by
  refine ⟨?_, .flag⟩
  rintro (differ | ⟨left, _, _, _⟩)
  · exact differ
  · rw [bare] at left
    cases left

theorem isFlag_of_tupleItems {items : List Value} (tuple : v.tupleItems? = some items) :
    v.isFlag = false := by
  cases v with
  | scalar s => cases tuple
  | _ => rfl

theorem toldApart_iff_items {xs ys : List Value} (left : v.tupleItems? = some xs)
    (right : w.tupleItems? = some ys) :
    ToldApart v w ↔ ∃ pair ∈ xs.zip ys, ToldApart pair.1 pair.2 := by
  constructor
  · rintro (differ | ⟨left', right', held, inner⟩)
    · rw [isFlag_of_tupleItems left, isFlag_of_tupleItems right] at differ
      exact absurd rfl differ
    · cases left.symm.trans left'
      cases right.symm.trans right'
      exact ⟨_, held, inner⟩
  · rintro ⟨pair, held, inner⟩
    exact .item left right held inner

end Value

/-! ## Matching -/

/-- The first test holds where the second one does, unless it is `told` not to. -/
structure Withheld (told : Prop) (first second : Except Fault Bool) : Prop where
  holds_iff : first = .ok true ↔ ¬ told ∧ second = .ok true
  fails : ∀ fault, first = .error fault → second = .error fault

namespace Withheld

variable {told told' : Prop} {first first' second second' : Except Fault Bool}

theorem of_not (untold : ¬ told) (answer : Except Fault Bool) : Withheld told answer answer :=
  ⟨by simp [untold], fun _ => id⟩

theorem of_told (holds : told) (answer : Except Fault Bool) : Withheld told (.ok false) answer :=
  ⟨by simp [holds], nofun⟩

theorem andThen (here : Withheld told first second) (later : Withheld told' first' second') :
    Withheld (told ∨ told') (andThen first fun _ => first') (andThen second fun _ => second') where
  holds_iff := by
    rw [andThen_eq_true_iff, andThen_eq_true_iff, here.holds_iff, later.holds_iff]
    tauto
  fails fault failed := by
    rw [andThen_eq_error_iff] at failed ⊢
    rcases failed with failed | ⟨held, failed⟩
    · exact .inl (here.fails fault failed)
    · exact .inr ⟨(here.holds_iff.mp held).2, later.fails fault failed⟩

end Withheld

namespace Pattern

variable {p v : Value}

/-- The pattern of the first value answers for the second one as for the first one itself, but
does not hold where they are told apart. -/
def AsForItself (p v : Value) : Prop :=
  Withheld (Value.ToldApart p v) ((ofValue p).matches v) ((ofValue p).matches p)

theorem patternsOf_eq_map (items : List Value) : patternsOf items = items.map ofValue := by
  induction items with
  | nil => rfl
  | cons v rest ih => rw [patternsOf, List.map_cons, ih]

theorem fieldPatterns_eq_map (fields : List (String × Value)) :
    fieldPatterns fields = (fields.map (·.2)).map ofValue := by
  induction fields with
  | nil => rfl
  | cons field rest ih => rw [fieldPatterns, List.map_cons, List.map_cons, ih]

theorem hasPattern_of_tupleItems {items : List Value} (tuple : v.tupleItems? = some items) :
    v.hasPattern = true := by
  induction v using Value.inductRefusing with
  | refusing more value ih => exact ih tuple
  | tuple items => rfl
  | named cls fields => rfl
  | _ => cases tuple

theorem ofValue_of_tupleItems {items : List Value} (tuple : v.tupleItems? = some items) :
    ofValue v = .shape (items.map ofValue) := by
  induction v using Value.inductRefusing with
  | refusing more value ih =>
      rw [← ih tuple, ofValue, if_pos (hasPattern_of_tupleItems (v := value) tuple)]
  | tuple xs =>
      cases tuple
      rw [ofValue, patternsOf_eq_map]
  | named cls fields =>
      cases tuple
      rw [ofValue, fieldPatterns_eq_map]
  | _ => cases tuple

theorem hasPattern_of_count {n : Int} (counts : v.count? = some n) :
    v.hasPattern = false ∧ v.tupleItems? = none := by
  have scalar := Value.unwrapped_of_count counts
  clear counts
  induction v using Value.inductRefusing with
  | refusing more value ih => exact ih scalar
  | tuple items => cases scalar
  | named cls fields => cases scalar
  | pattern p => cases scalar
  | _ => exact ⟨rfl, rfl⟩

theorem ofValue_of_count {n : Int} (counts : v.count? = some n) : ofValue v = .exact v := by
  obtain ⟨unlike, -⟩ := hasPattern_of_count counts
  cases v with
  | refusing more value => rw [ofValue, if_neg]; exact Bool.eq_false_iff.mp unlike
  | tuple items => cases unlike
  | named cls fields => cases unlike
  | pattern p => cases unlike
  | _ => rfl

theorem exact_matches_of_recounted (recounted : Value.Recounted p v) :
    (exact p).matches v = if p.isFlag = v.isFlag then (exact p).matches p else .ok false := by
  -- the value is the left operand, so it can be exchanged for the pattern's own one
  have compared : v.equal p = p.equal p := (recounted.comparedAlike.answer false p).symm
  rw [Pattern.matches, Pattern.matches, exactlyEqual, exactlyEqual, compared]
  cases p.equal p with
  | error fault => simp
  | ok answer => cases p.isFlag <;> cases v.isFlag <;> rfl

theorem asForItself_exact (recounted : Value.Recounted p v) (bare : p.tupleItems? = none)
    (converted : ofValue p = .exact p) : AsForItself p v := by
  rw [AsForItself, converted, exact_matches_of_recounted recounted, Value.toldApart_iff_isFlag bare]
  split
  · exact .of_not (by simpa) _
  · exact .of_told ‹_› _

theorem withheld_items {xs ys : List Value} (each : List.Forall₂ AsForItself xs ys) :
    Withheld (∃ pair ∈ xs.zip ys, Value.ToldApart pair.1 pair.2)
      (allMatch (xs.map ofValue) ys) (allMatch (xs.map ofValue) xs) := by
  induction each with
  | nil => exact .of_not (by simp) _
  | cons first _ ih =>
      rw [List.map_cons, List.zip_cons_cons, List.exists_mem_cons_iff]
      exact first.andThen ih

theorem asForItself_shape {xs ys : List Value} (left : p.tupleItems? = some xs)
    (right : v.tupleItems? = some ys) (each : List.Forall₂ AsForItself xs ys) :
    AsForItself p v := by
  have length : ys.length = (xs.map ofValue).length := by
    rw [List.length_map, each.length_eq]
  rw [AsForItself, ofValue_of_tupleItems left, Value.toldApart_iff_items left right]
  simp only [Pattern.matches, left, right, length, List.length_map, if_true]
  exact withheld_items each

theorem asForItself_of_recounted (recounted : Value.Recounted p v) : AsForItself p v := by
  refine Value.Recounted.induct (motive := AsForItself) ?same ?flag ?count ?list ?tuple ?named
    ?dict recounted
  case same => exact fun v => .of_not (fun apart => apart.ne rfl) _
  case flag => exact fun b c counts => asForItself_exact (.flag counts) rfl rfl
  case count =>
    exact fun b c counts =>
      asForItself_exact (.count counts) (hasPattern_of_count counts).2 (ofValue_of_count counts)
  case list => exact fun xs ys recounted _ => asForItself_exact recounted rfl rfl
  case tuple => exact fun xs ys items => asForItself_shape rfl rfl items
  case named => exact fun cls fields others values => asForItself_shape rfl rfl values.values
  case dict => exact fun readOnly entries others recounted _ => asForItself_exact recounted rfl rfl

theorem recounted_matches_iff (recounted : Value.Recounted p v) :
    ((ofValue p).matches v = .ok true ↔
      ¬ Value.ToldApart p v ∧ (ofValue p).matches p = .ok true) ∧
    (∀ fault, (ofValue p).matches v = .error fault → (ofValue p).matches p = .error fault) ∧
    (exact p).matches v = if p.isFlag = v.isFlag then (exact p).matches p else .ok false := by
  have answers := asForItself_of_recounted recounted
  exact ⟨answers.holds_iff, answers.fails, exact_matches_of_recounted recounted⟩

theorem recounted_matches_iff_nested :
    let p : Value := .tuple [.int 1, .list [.int 1]]
    let v : Value := .tuple [.flag true, .list [.flag true]]
    Value.Recounted p v ∧
    ((ofValue p).matches v = .ok true ↔
      ¬ Value.ToldApart p v ∧ (ofValue p).matches p = .ok true) ∧
    (∀ fault, (ofValue p).matches v = .error fault → (ofValue p).matches p = .error fault) ∧
    (exact p).matches v = if p.isFlag = v.isFlag then (exact p).matches p else .ok false := by
  intro p v
  have one : Value.Recounted (.int 1) (.flag true) := .count rfl
  have recounted : Value.Recounted p v :=
    .tuple (.cons one (.cons (.list (.cons one .nil)) .nil))
  exact ⟨recounted, recounted_matches_iff recounted⟩

/-- A list of counts matches a list of flags, and so does a mapping in a tuple; a tuple does in an
exact pattern. -/
theorem flag_taken_for_count :
    let page (n : Value) : Value := .tuple [.text "ok", .dict false [(.text "page", n)]]
    (Value.Recounted (.list [.int 1]) (.list [.flag true]) ∧
      (ofValue (.list [.int 1])).matches (.list [.flag true]) = .ok true) ∧
    (Value.Recounted (page (.int 1)) (page (.flag true)) ∧
      (ofValue (page (.int 1))).matches (page (.flag true)) = .ok true) ∧
    Value.Recounted (.tuple [.int 1]) (.tuple [.flag true]) ∧
      (exact (.tuple [.int 1])).matches (.tuple [.flag true]) = .ok true := by
  intro page
  have one : Value.Recounted (.int 1) (.flag true) := .count rfl
  have inPage : Value.Recounted (page (.int 1)) (page (.flag true)) :=
    .tuple (.cons (.same _) (.cons (.dict false rfl (.cons one .nil)) .nil))
  exact ⟨⟨.list (.cons one .nil), rfl⟩, ⟨inPage, rfl⟩, .tuple (.cons one .nil), rfl⟩

end Pattern

end CachePolicy
