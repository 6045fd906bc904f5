import CachePolicy.Proofs.Key.Reordering
import CachePolicy.Proofs.Operation.Binding
import Mathlib.Logic.Relation

/-!
# Calls written in another way

A call can be written with its keywords in another order, with its last positional value
as a keyword, or with a default spelled out.  The parameters get the same values, except
that collected keywords stand in the order of the call.  So it is bound as before, and
every key has the same text.
-/

namespace CachePolicy

namespace Signature

/-- One way to write a call differently. -/
inductive Rewrites (s : Signature) : Arguments → Arguments → Prop
  | permuted {items : List Value} {keywords others : Table String Value}
      (perm : keywords.Perm others) : Rewrites s ⟨items, keywords⟩ ⟨items, others⟩
  | moved {items : List Value} {keywords : Table String Value} {value : Value} {p : Parameter}
      (member : p ∈ s) (ordinary : p.kind = .ordinary)
      (receives : s.positionNames[items.length]? = some p.name) :
      Rewrites s ⟨items ++ [value], keywords⟩ ⟨items, keywords.put p.name value⟩
  | added {items : List Value} {keywords : Table String Value} {value : Value} {p : Parameter}
      (member : p ∈ s) (takes : p.takesKeyword = true)
      (unplaced : (s.placed ⟨items, keywords⟩).get? p.name = none)
      (unnamed : keywords.get? p.name = none) (default : p.default? = some value) :
      Rewrites s ⟨items, keywords⟩ ⟨items, keywords.put p.name value⟩

/-- The second call is bound as well, with values that are written alike. -/
structure ReadsAlike (s : Signature) (a b : Arguments) : Prop where
  accepts : s.Accepts b
  shown : ¬ s.Hides b
  values : ∀ q ∈ s, Option.Rel Value.WrittenAlike (s.value? a q) (s.value? b q)

variable {s : Signature} {a b : Arguments} {p q : Parameter} {items : List Value}
  {keywords others : Table String Value} {value : Value} {name : String}

theorem writtenAlike_of_eq {held? other? : Option Value} (same : other? = held?) :
    Option.Rel Value.WrittenAlike held? other? := by
  subst same
  cases other? with
  | none => exact .none
  | some held => exact .some (.refl _)

/-- Where the values are written alike and nothing more is left over, only names that are given
twice or hidden could keep the second call from being bound. -/
theorem readsAlike_of_values (accepts : s.Accepts a) (shown : ¬ s.Hides a)
    (values : ∀ q ∈ s, Option.Rel Value.WrittenAlike (s.value? a q) (s.value? b q))
    (samePositional : s.extraPositional b = s.extraPositional a)
    (noExtra : s.extraKeywords a = [] → s.extraKeywords b = [])
    (twice : ∀ q ∈ s, q.kind = .ordinary → (s.placed b).contains q.name →
      b.keywords.contains q.name → (s.placed a).contains q.name ∧ a.keywords.contains q.name)
    (hidden : ∀ q ∈ s, q.kind = .positionalOnly → (s.placed b).get? q.name = none →
      b.keywords.contains q.name →
        (s.placed a).get? q.name = none ∧ a.keywords.contains q.name) :
    s.ReadsAlike a b where
  accepts := by
    constructor
    · intro q member
      have filled := accepts.filled q member
      have alike := values q member
      generalize s.value? a q = held?, s.value? b q = other? at filled alike ⊢
      cases alike with
      | none => exact filled
      | some written => rfl
    · rintro q member ordinary ⟨placed, named⟩
      exact accepts.once q member ordinary (twice q member ordinary placed named)
    · rw [samePositional]
      exact accepts.positional
    · exact accepts.keywords.imp_left noExtra
  shown := by
    rintro ⟨q, member, only, unplaced, named⟩
    exact shown ⟨q, member, only, hidden q member only unplaced named⟩
  values := values

/-! ## Keywords in another order -/

theorem readsAlike_permuted (accepts : s.Accepts ⟨items, keywords⟩)
    (shown : ¬ s.Hides ⟨items, keywords⟩) (distinct : keywords.Distinct)
    (perm : keywords.Perm others) : s.ReadsAlike ⟨items, keywords⟩ ⟨items, others⟩ := by
  have sameKeyword := distinct.get?_perm perm
  have extra : (s.extraKeywords ⟨items, keywords⟩).Perm (s.extraKeywords ⟨items, others⟩) :=
    perm.filter _
  have distinctExtra : (s.extraKeywords ⟨items, keywords⟩).Distinct :=
    List.Nodup.sublist (List.filter_sublist.map Prod.fst) distinct
  refine readsAlike_of_values accepts shown ?_ rfl (fun none => ?_) ?_ ?_
  · intro q _
    -- only the collected keywords stand in the order of the call
    cases kind : q.kind with
    | keywords =>
        simp only [value?, kind]
        exact .some (fragment_keywordEntries_concur distinctExtra extra)
    | positionalOnly | ordinary | variadic | keywordOnly =>
        refine writtenAlike_of_eq ?_
        simp [value?, kind, sameKeyword, placed, extraPositional]
  · rw [none] at extra
    exact List.perm_nil.mp extra.symm
  · intro q _ _ placed named
    rw [Table.contains, sameKeyword] at named
    exact ⟨placed, named⟩
  · intro q _ _ unplaced named
    rw [Table.contains, sameKeyword] at named
    exact ⟨unplaced, named⟩

/-! ## Values as keywords -/

/-- A value that a parameter has anyway is given to it as a keyword. -/
structure Names (s : Signature) (p : Parameter) (value : Value) (a b : Arguments) : Prop where
  member : p ∈ s
  takes : p.takesKeyword = true
  valued : s.value? a p = some value
  unnamed : a.keywords.get? p.name = none
  named : b.keywords = a.keywords.put p.name value
  free : (s.placed b).get? p.name = none
  samePlace : ∀ name, name ≠ p.name → (s.placed b).get? name = (s.placed a).get? name
  samePositional : s.extraPositional b = s.extraPositional a

namespace Names

theorem sameKeyword (names : s.Names p value a b) (other : name ≠ p.name) :
    b.keywords.get? name = a.keywords.get? name := by
  rw [names.named, Table.get?_put_of_ne _ _ other.symm]

theorem sameExtra (names : s.Names p value a b) : s.extraKeywords b = s.extraKeywords a := by
  rw [extraKeywords, extraKeywords, names.named, Table.put_of_get?_eq_none names.unnamed,
    List.filter_append]
  have taken : s.any (fun q => q.takesKeyword && q.name = p.name) = true :=
    List.any_eq_true.mpr ⟨p, names.member, by simp [names.takes]⟩
  simp [taken]

theorem value?_eq (names : s.Names p value a b) (wellFormed : s.WellFormed) (member : q ∈ s) :
    s.value? b q = s.value? a q := by
  -- the named parameter had its value before, and the others read nothing that has changed
  by_cases same : q.name = p.name
  · obtain rfl := eq_of_name_eq wellFormed member names.member same
    have given : b.keywords.get? q.name = some value := by rw [names.named, Table.get?_put_self]
    rw [names.valued]
    have takes := names.takes
    unfold Parameter.takesKeyword at takes
    cases kind : q.kind <;> simp [kind, value?, names.free, given] at takes ⊢
  · simp only [value?, names.samePlace _ same, names.sameKeyword same, names.samePositional,
      names.sameExtra]

theorem readsAlike (names : s.Names p value a b) (wellFormed : s.WellFormed)
    (accepts : s.Accepts a) (shown : ¬ s.Hides a) : s.ReadsAlike a b := by
  refine readsAlike_of_values accepts shown
    (fun q member => writtenAlike_of_eq (names.value?_eq wellFormed member))
    names.samePositional (fun none => names.sameExtra.trans none) ?_ ?_
  · intro q member ordinary placed named
    by_cases same : q.name = p.name
    · simp [Table.contains, same, names.free] at placed
    · rw [Table.contains, names.samePlace _ same] at placed
      rw [Table.contains, names.sameKeyword same] at named
      exact ⟨placed, named⟩
  · intro q member only unplaced named
    have other : q.name ≠ p.name := by
      intro same
      obtain rfl := eq_of_name_eq wellFormed member names.member same
      simpa [Parameter.takesKeyword, only] using names.takes
    rw [names.samePlace _ other] at unplaced
    rw [Table.contains, names.sameKeyword other] at named
    exact ⟨unplaced, named⟩

end Names

/-- The last positional value has the last place that is taken. -/
theorem zip_snoc {names : List String} (distinct : names.Nodup)
    (receives : names[items.length]? = some name) (value : Value) :
    Table.get? (names.zip items) name = none ∧
      names.zip (items ++ [value]) = Table.put (names.zip items) name value := by
  induction items generalizing names with
  | nil =>
      cases names with
      | nil => simp at receives
      | cons first rest =>
          obtain rfl : first = name := by simpa using receives
          exact ⟨rfl, by simp [Table.put]⟩
  | cons item items ih =>
      cases names with
      | nil => simp at receives
      | cons first rest =>
          have receives : rest[items.length]? = some name := by simpa using receives
          have apart : first ≠ name := by
            rintro rfl
            exact (List.nodup_cons.mp distinct).1 (List.mem_of_getElem? receives)
          obtain ⟨free, snoc⟩ := ih (List.nodup_cons.mp distinct).2 receives
          simp only [List.zip_cons_cons, List.cons_append, Table.get?, Table.put, apart,
            if_false, free, snoc, and_self]

theorem names_of_moved (wellFormed : s.WellFormed) (member : p ∈ s)
    (ordinary : p.kind = .ordinary) (receives : s.positionNames[items.length]? = some p.name)
    (accepts : s.Accepts ⟨items ++ [value], keywords⟩) :
    s.Names p value ⟨items ++ [value], keywords⟩ ⟨items, keywords.put p.name value⟩ := by
  have distinct : s.positionNames.Nodup :=
    List.Nodup.sublist (List.filter_sublist.map Parameter.name) wellFormed.distinct
  obtain ⟨free, snoc⟩ := zip_snoc distinct receives value
  have placed : (s.placed ⟨items ++ [value], keywords⟩).get? p.name = some value := by
    rw [Signature.placed, snoc, Table.get?_put_self]
  have short : items.length < s.positionNames.length := (List.getElem?_eq_some_iff.mp receives).1
  refine ⟨member, by simp [Parameter.takesKeyword, ordinary], ?_, ?_, rfl, free, ?_, ?_⟩
  · simp [value?, ordinary, placed]
  · have once := accepts.once p member ordinary
    simpa [Table.contains, placed] using once
  · intro name other
    rw [Signature.placed, Signature.placed, snoc, Table.get?_put_of_ne _ _ other.symm]
  · rw [extraPositional, extraPositional, List.drop_eq_nil_of_le (Nat.le_of_lt short),
      List.drop_eq_nil_of_le (by simpa [Nat.succ_le_iff] using short)]

theorem names_of_added (member : p ∈ s) (takes : p.takesKeyword = true)
    (unplaced : (s.placed ⟨items, keywords⟩).get? p.name = none)
    (unnamed : keywords.get? p.name = none) (default : p.default? = some value) :
    s.Names p value ⟨items, keywords⟩ ⟨items, keywords.put p.name value⟩ where
  member := member
  takes := takes
  valued := by
    unfold Parameter.takesKeyword at takes
    cases kind : p.kind <;> simp [kind, value?, unplaced, unnamed, default] at takes ⊢
  unnamed := unnamed
  named := rfl
  free := unplaced
  samePlace _ _ := rfl
  samePositional := rfl

/-! ## Rewritten calls -/

theorem Rewrites.readsAlike (rewrites : s.Rewrites a b) (wellFormed : s.WellFormed)
    (distinct : a.keywords.Distinct) (accepts : s.Accepts a) (shown : ¬ s.Hides a) :
    b.keywords.Distinct ∧ s.ReadsAlike a b := by
  cases rewrites with
  | permuted perm =>
      exact ⟨distinct.perm perm, readsAlike_permuted accepts shown distinct perm⟩
  | moved member ordinary receives =>
      have names := names_of_moved wellFormed member ordinary receives accepts
      exact ⟨distinct.put names.unnamed _, names.readsAlike wellFormed accepts shown⟩
  | added member takes unplaced unnamed default =>
      have names := names_of_added member takes unplaced unnamed default
      exact ⟨distinct.put unnamed _, names.readsAlike wellFormed accepts shown⟩

theorem ReadsAlike.assigned (alike : s.ReadsAlike a b) :
    Table.Alike Value.WrittenAlike (s.assigned a) (s.assigned b) :=
  Table.Alike.gathered alike.values

theorem Rewrites.bind {bound : Bindings} (rewrites : s.Rewrites a b) (wellFormed : s.WellFormed)
    (distinct : a.keywords.Distinct) (binds : s.bind a = some bound) :
    b.keywords.Distinct ∧ ∃ other, s.bind b = some other ∧
      ∀ key : CompiledKey, Concur (key.render bound) (key.render other) := by
  obtain ⟨shown, received, isReceived, rfl⟩ := (bind_eq_some_iff wellFormed).mp binds
  obtain ⟨accepts, rfl⟩ := (receive_eq_some_iff wellFormed).mp isReceived
  obtain ⟨still, alike⟩ := rewrites.readsAlike wellFormed distinct accepts shown
  have receives := (receive_eq_some_iff wellFormed).mpr ⟨alike.accepts, rfl⟩
  refine ⟨still, _, (bind_eq_some_iff wellFormed).mpr ⟨alike.shown, _, receives, rfl⟩, ?_⟩
  exact fun key => key.render_concur (alike.assigned.filter fun name => name ≠ discarded)

/-- However often a bound call is rewritten, it stays bound, and every key has the same text
or has none as before. -/
theorem rewritten_call_same_key (wellFormed : s.WellFormed)
    (rewritten : Relation.ReflTransGen s.Rewrites a b) (distinct : a.keywords.Distinct)
    {bound : Bindings} (binds : s.bind a = some bound) :
    ∃ other, s.bind b = some other ∧ ∀ (key : CompiledKey) (text : String),
      key.render bound = .ok text ↔ key.render other = .ok text := by
  suffices run : b.keywords.Distinct ∧ ∃ other, s.bind b = some other ∧
      ∀ key : CompiledKey, Concur (key.render bound) (key.render other) from run.2
  -- a call that is rewritten must have distinct keywords again before it is rewritten further
  induction rewritten with
  | refl => exact ⟨distinct, bound, binds, fun key => .refl _⟩
  | tail _ step ih =>
      obtain ⟨distinct, middle, binds, first⟩ := ih
      obtain ⟨distinct, other, binds, second⟩ := step.bind wellFormed distinct binds
      exact ⟨distinct, other, binds, fun key => (first key).trans (second key)⟩

/-- The page moves to a keyword, the keywords change places and the order is spelled out. -/
theorem rewritten_call_same_key_collected :
    let s : Signature :=
      [⟨"user", .positionalOnly, none⟩, ⟨"page", .ordinary, none⟩,
        ⟨"order", .keywordOnly, some (.text "id")⟩, ⟨"filters", .keywords, none⟩]
    let a : Arguments := ⟨[.text "Ann", .text "next"], [("b", .text "x"), ("a", .null)]⟩
    let b : Arguments :=
      ⟨[.text "Ann"],
        [("page", .text "next"), ("a", .null), ("b", .text "x"), ("order", .text "id")]⟩
    let bound : Bindings :=
      [("user", .text "Ann"), ("page", .text "next"), ("order", .text "id"),
        ("filters", .dict false [(.text "b", .text "x"), (.text "a", .null)])]
    let key : CompiledKey :=
      ⟨"\x7buser\x7d:\x7bpage\x7d\x7bfilters\x7d", [.placeholder "user", .literal ":",
        .placeholder "page", .placeholder "filters"]⟩
    s.WellFormed ∧ Relation.ReflTransGen s.Rewrites a b ∧ a.keywords.Distinct ∧
      s.bind a = some bound ∧
      CompiledKey.compile (.text key.template) s.argumentNames "app.list_users/4" "cache" =
        .ok key ∧
      ∃ other, s.bind b = some other ∧
        key.render other = .ok "Ann:next\x7b\"a\":null,\"b\":\"x\"\x7d" := by
  intro s a b bound key
  have wellFormed : s.WellFormed := ⟨by decide, by decide⟩
  let last : Table String Value := a.keywords.put "page" (.text "next")
  let first : Table String Value := last.reverse
  have moved : s.Rewrites ⟨[.text "Ann"] ++ [.text "next"], a.keywords⟩ ⟨[.text "Ann"], last⟩ :=
    .moved (.tail _ (.head _)) rfl rfl
  have permuted : s.Rewrites ⟨[.text "Ann"], last⟩ ⟨[.text "Ann"], first⟩ :=
    .permuted (List.reverse_perm _).symm
  have added : s.Rewrites ⟨[.text "Ann"], first⟩
      ⟨[.text "Ann"], first.put "order" (.text "id")⟩ :=
    .added (.tail _ (.tail _ (.head _))) rfl rfl rfl rfl
  have rewritten : Relation.ReflTransGen s.Rewrites a b :=
    ((Relation.ReflTransGen.single moved).tail permuted).tail added
  have distinct : a.keywords.Distinct := by decide
  have binds : s.bind a = some bound := rfl
  have compiled : CompiledKey.compile (.text key.template) s.argumentNames "app.list_users/4"
      "cache" = .ok key := by
    cbv
  have filters : (Value.dict false [(.text "b", .text "x"), (.text "a", .null)]).fragment =
      .ok "\x7b\"a\":null,\"b\":\"x\"\x7d" := by
    cbv
  have pieces : key.segments.mapM (CompiledKey.segmentText bound) =
      .ok ["Ann", ":", "next", "\x7b\"a\":null,\"b\":\"x\"\x7d"] :=
    mapM_eq_ok_iff.mpr (.cons rfl (.cons rfl (.cons rfl (.cons filters .nil))))
  have rendered : key.render bound = .ok "Ann:next\x7b\"a\":null,\"b\":\"x\"\x7d" := by
    rw [CompiledKey.render, pieces]
    rfl
  obtain ⟨other, binds', same⟩ := rewritten_call_same_key wellFormed rewritten distinct binds
  exact ⟨wellFormed, rewritten, distinct, binds, compiled, other, binds', (same key _).mp rendered⟩

end Signature

end CachePolicy
