import CachePolicy.Proofs.Key.Trees

/-!
# Values that an encoder knows

An encoder writes null, flags, numbers and texts, lists, and dictionaries from texts.  For
any other value it asks a fallback.  Plain values are made of the former alone, so the
fallback is never asked for one of them, and what is written is the text of its plain form.
-/

namespace CachePolicy

/-- What is written for a value that an encoder does not know, or how it is refused. -/
abbrev Fallback := Value → Except Fault (List Char)

/-- The null, flag, number or text that a value is; a member of an enumeration may be a number
or a text besides. -/
def Value.leaf? : Value → Option Datum
  | .null => some .null
  | .flag b => some (.flag b)
  | .int n => some (.int n)
  | .scalar (.float x) => some (.float x)
  | .text s => some (.text s)
  | .member mixin _ _ _ => mixin.normal? false
  | .refusing _ value => value.leaf?
  | _ => none

/-- Whether an encoder does without its fallback for the value itself. -/
def Value.isEncodable : Value → Bool
  | .list _ | .tuple _ | .named _ _ => true
  | .dict readOnly entries => !readOnly && entries.all fun entry => entry.1.text?.isSome
  | .refusing _ value => value.isEncodable
  | v => v.leaf?.isSome

/-- The attributes that an encoder reads of a value that it knows. -/
def Value.encoderReads : Value → List String
  | .dict _ (_ :: _) => ["items"]
  | .refusing _ value => value.encoderReads
  | _ => []

section

variable (style : Datum.Style) (fallback : Fallback)

mutual

/-- A value as JSON text.  A tuple is a list, and a dictionary with a key that is no text is left
to the fallback. -/
def Value.encoded : Value → Except Fault (List Char)
  | .list items | .tuple items => do
      return '[' :: Datum.joinedChars style.itemSeparator (← encodedItems items) ++ [']']
  | .named _ fields => do
      return '[' :: Datum.joinedChars style.itemSeparator (← encodedFields fields) ++ [']']
  | .dict false entries =>
      if entries.all fun entry => entry.1.text?.isSome then do
        let printed ← encodedEntries entries
        let printed := if style.sorted then printed.mergeSort Datum.nameLe else printed
        return '\x7b' :: Datum.joinedChars style.itemSeparator
          (printed.map (Datum.memberChars style)) ++ ['\x7d']
      else fallback (.dict false entries)
  | .refusing refusals value =>
      if value.isEncodable then do
        value.encoderReads.forM fun name => refusals.allow (.attribute name)
        value.encoded
      else fallback (.refusing refusals value)
  | v =>
      match v.leaf? with
      | some d => d.chars style
      | none => fallback v

def encodedItems : List Value → Except Fault (List (List Char))
  | [] => .ok []
  | v :: rest => do return (← v.encoded) :: (← encodedItems rest)

def encodedFields : List (String × Value) → Except Fault (List (List Char))
  | [] => .ok []
  | (_, v) :: rest => do return (← v.encoded) :: (← encodedFields rest)

def encodedEntries : List (Value × Value) → Except Fault (List (String × List Char))
  | [] => .ok []
  | (k, v) :: rest => do return (k.text?.getD "", ← v.encoded) :: (← encodedEntries rest)

end

end

/-- A value made of what an encoder knows. -/
inductive Value.Plain : Value → Prop
  | leaf {v : Value} {d : Datum} (leaf : v.leaf? = some d) : Plain v
  | list {items : List Value} (each : ∀ v ∈ items, v.Plain) : Plain (.list items)
  | dict {fields : Table String Value} (distinct : fields.Distinct)
      (each : ∀ field ∈ fields, field.2.Plain) :
      Plain (.dict false (Signature.keywordEntries fields))

/-- The value is these data: they are its plain form, and an encoder writes it as they are
written, whatever the fallback is. -/
structure Value.IsData (v : Value) (d : Datum) : Prop where
  normal : v.normal = .ok d
  encoded : ∀ style fallback, v.encoded style fallback = d.chars style

namespace Value

variable {v : Value} {d : Datum} {items : List Value} {fields : Table String Value}

/-- Nothing is asked of what is a leaf. -/
theorem reads_of_leaf (leaf : v.leaf? = some d) :
    v.reads false = [] ∧ v.encoderReads = [] ∧ v.isEncodable = true := by
  induction v using Value.inductRefusing with
  | refusing more value ih => exact ih leaf
  | scalar s => cases s <;> cases leaf <;> exact ⟨rfl, rfl, rfl⟩
  | member mixin cls name value => cases mixin <;> cases leaf <;> exact ⟨rfl, rfl, rfl⟩
  | _ => cases leaf

theorem isData_of_leaf (leaf : v.leaf? = some d) : v.IsData d := by
  induction v using Value.inductRefusing with
  | refusing more value ih =>
      have data := ih leaf
      obtain ⟨unread, unasked, known⟩ := reads_of_leaf (v := value) leaf
      refine ⟨normal_refusing_eq_ok_iff.mpr ⟨?_, data.normal⟩, fun style fallback => ?_⟩
      · rw [unread]
        exact List.forall_mem_nil _
      · rw [encoded, if_pos known, unasked]
        exact data.encoded style fallback
  | scalar s =>
      refine ⟨?_, fun style fallback => by simp only [encoded, leaf]⟩
      cases s <;> cases leaf <;> rfl
  | member mixin cls name value =>
      refine ⟨?_, fun style fallback => by simp only [encoded, leaf]⟩
      cases mixin <;> cases leaf <;> rfl
  | _ => cases leaf

theorem isData_list {ds : List Datum} (each : List.Forall₂ IsData items ds) :
    (list items).IsData (.list ds) := by
  constructor
  · rw [normal_list_eq_ok_iff]
    exact ⟨ds, each.imp fun v d same => same.normal, rfl⟩
  · intro style fallback
    have parts : encodedItems style fallback items = Datum.itemChars style ds := by
      induction each with
      | nil => rfl
      | cons first _ ih => rw [encodedItems, Datum.itemChars, first.encoded, ih]
    rw [encoded, Datum.chars, parts]

theorem isData_dict {members : Table String Datum} (distinct : fields.Distinct)
    (each : Table.Alike IsData fields members) :
    (dict false (Signature.keywordEntries fields)).IsData (.map members) := by
  constructor
  · have made : normalEntries (Signature.keywordEntries fields) = .ok members := by
      rw [normalEntries_keywordEntries, Table.traverse, mapM_eq_ok_iff]
      refine each.imp fun field member same => ?_
      rw [same.2.normal, same.1]
      rfl
    have named : members.Distinct := by rwa [Table.Distinct, ← each.keys]
    rw [normal_dict_eq_ok_iff]
    exact ⟨members, made, by rw [Table.ofEntries_of_distinct named]⟩
  · intro style fallback
    have texts : (Signature.keywordEntries fields).all (fun entry => entry.1.text?.isSome) := by
      simp [Signature.keywordEntries, text?]
    have parts : encodedEntries style fallback (Signature.keywordEntries fields) =
        Datum.namedChars style members := by
      clear distinct texts
      induction each with
      | nil => rfl
      | @cons field member fields members first _ ih =>
          rw [Datum.namedChars, ← first.1, ← first.2.encoded style fallback, ← ih]
          rfl
    rw [encoded, if_pos texts, Datum.chars, parts]

/-- A plain value is data, so an encoder knows it. -/
theorem Plain.exists_isData (plain : v.Plain) : ∃ d, v.IsData d := by
  induction plain with
  | leaf leaf => exact ⟨_, isData_of_leaf leaf⟩
  | list _ each =>
      obtain ⟨ds, related⟩ := exists_forall₂ each
      exact ⟨_, isData_list related⟩
  | dict distinct _ each =>
      obtain ⟨members, alike⟩ := Table.Alike.exists_of_forall each
      exact ⟨_, isData_dict distinct alike⟩

-- A fallback that refuses is heard for what is not plain, at any depth.
example : (list [set false []]).encoded Datum.sorting (fun _ => .error .unencodable) =
    .error .unencodable := rfl

end Value

end CachePolicy
