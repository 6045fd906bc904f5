import CachePolicy.Proofs.Key.Plain

/-!
# Values that no fragment tells apart

A container reads three things of the values in it: the plain form, the fragment where
the value is a key, and the answer to the request for a dump where it is an attribute.
Values of one content, in which the first two are the same, can stand for each other
wherever the answer is not asked for, and similar values in every container.
-/

namespace CachePolicy

/-! ## Parts exchanged -/

/-- The second pattern is the first one with one of the values in it, `x`, exchanged for `y`. -/
inductive Pattern.Exchanged (x y : Value) : Pattern → Pattern → Prop
  | exact : Exchanged x y (.exact x) (.exact y)
  | element {p q : Pattern} (inner : Exchanged x y p q) (front back : List Pattern) :
      Exchanged x y (.shape (front ++ p :: back)) (.shape (front ++ q :: back))
  | field {p q : Pattern} (inner : Exchanged x y p q) (cls : Class) (name : String)
      (front back : List (String × Pattern)) :
      Exchanged x y (.record cls (front ++ (name, p) :: back))
        (.record cls (front ++ (name, q) :: back))

/-- The second value is the first one with one of its direct parts, `x`, exchanged for `y`.  Both
refuse the same reads. -/
inductive Value.Exchanged (x y : Value) : Value → Value → Prop
  | listItem (front back : List Value) :
      Exchanged x y (.list (front ++ x :: back)) (.list (front ++ y :: back))
  | tupleItem (front back : List Value) :
      Exchanged x y (.tuple (front ++ x :: back)) (.tuple (front ++ y :: back))
  | element (frozen : Bool) (front back : List Value) :
      Exchanged x y (.set frozen (front ++ x :: back)) (.set frozen (front ++ y :: back))
  | key (readOnly : Bool) (front back : List (Value × Value)) (v : Value) :
      Exchanged x y (.dict readOnly (front ++ (x, v) :: back))
        (.dict readOnly (front ++ (y, v) :: back))
  | entry (readOnly : Bool) (front back : List (Value × Value)) (k : Value) :
      Exchanged x y (.dict readOnly (front ++ (k, x) :: back))
        (.dict readOnly (front ++ (k, y) :: back))
  | member (mixin : Mixin) (cls name : String) :
      Exchanged x y (.member mixin cls name x) (.member mixin cls name y)
  | dataField (cls name : String) (front back : List (String × Value)) (missing : List String) :
      Exchanged x y (.data cls (front ++ (name, x) :: back) missing)
        (.data cls (front ++ (name, y) :: back) missing)
  | namedField (cls name : String) (front back : List (String × Value)) :
      Exchanged x y (.named cls (front ++ (name, x) :: back))
        (.named cls (front ++ (name, y) :: back))
  | dump (words : Option String) (attributes : List (String × Value)) (equality : Hook Value)
      (untestable : Bool) :
      Exchanged x y (.object words attributes equality untestable (.gives x))
        (.object words attributes equality untestable (.gives y))
  | looked (status : StatusMark) : Exchanged x y (.lookup status x) (.lookup status y)
  | pattern {p q : Pattern} (inner : p.Exchanged x y q) : Exchanged x y (.pattern p) (.pattern q)
  | refusing (refusals : Refusals) {v w : Value} (inner : Exchanged x y v w) :
      Exchanged x y (.refusing refusals v) (.refusing refusals w)

/-- The second value is the first one with a part exchanged that no plain form is made of. -/
inductive Value.ExchangedAside (x y : Value) : Value → Value → Prop
  | objectAttribute (words : Option String) (name : String) (front back : List (String × Value))
      (equality : Hook Value) (untestable : Bool) (dump : Hook Value) :
      ExchangedAside x y (.object words (front ++ (name, x) :: back) equality untestable dump)
        (.object words (front ++ (name, y) :: back) equality untestable dump)
  | equality (words : Option String) (attributes : List (String × Value)) (untestable : Bool)
      (dump : Hook Value) :
      ExchangedAside x y (.object words attributes (.gives x) untestable dump)
        (.object words attributes (.gives y) untestable dump)
  | knownPart (cls : Class) (name : String) (front back : List (String × Value)) :
      ExchangedAside x y (.known cls (front ++ (name, x) :: back))
        (.known cls (front ++ (name, y) :: back))
  | refusing (refusals : Refusals) {v w : Value} (inner : ExchangedAside x y v w) :
      ExchangedAside x y (.refusing refusals v) (.refusing refusals w)

/-- A named tuple that is written as it is shown, since the class under the name of a dump
refuses to make one. -/
def Value.Displayed : Value → Prop
  | .named _ fields => (Table.get? fields dumpName).bind Value.dumped? = some none
  | .refusing _ value => value.Displayed
  | _ => False

/-- What is answered to the request for a dump by what a named tuple or an object holds under its
name.  To an object a refusal is the same as that there is nothing to ask. -/
def Value.answered? : Value → Option (Option Datum)
  | .named _ fields => (Table.get? fields dumpName).bind Value.dumped?
  | .object _ attributes _ _ _ =>
      (Table.get? attributes dumpName).map fun held => held.dumped?.join
  | .refusing _ value => value.answered?
  | _ => none

/-! ## The same content -/

/-- What containers read of two values is the same, but for the answer to the request for a
dump. -/
structure Value.SameContent (v w : Value) : Prop where
  normal : Paired (Datum.Same true) v.normal w.normal
  fragment : Concur v.fragment w.fragment

def Value.Compound : Value → Prop
  | .scalar _ | .member _ _ _ _ => False
  | .refusing _ value => value.Compound
  | _ => True

namespace Value

variable {v w x y : Value}

/-- It makes no difference to a compound value whether it stands inside of another one. -/
theorem Compound.normal_eq (compound : v.Compound) (outer : Bool) (refusals : Refusals) :
    v.normal outer refusals = v.normal false refusals := by
  induction v using Value.inductRefusing generalizing refusals with
  | refusing more value ih => exact ih compound _
  | scalar s => exact compound.elim
  | member mixin cls name value => exact compound.elim
  | _ => rfl

theorem Compound.fragmentOf_eq (compound : v.Compound) (d : Datum) :
    v.fragmentOf d = d.fragment := by
  induction v using Value.inductRefusing with
  | refusing more value ih => exact ih compound
  | scalar s => exact compound.elim
  | member mixin cls name value => exact compound.elim
  | _ => cases d <;> rfl

theorem Compound.fragment_eq (compound : v.Compound) :
    v.fragment = v.normal >>= Datum.fragment := by
  simp only [fragment, compound.normal_eq true, compound.fragmentOf_eq]

theorem Compound.dumped?_eq_none (compound : v.Compound) : v.dumped? = none := by
  induction v using Value.inductRefusing with
  | refusing more value ih => exact ih compound
  | scalar s => exact compound.elim
  | _ => rfl

/-- Values that read the same attributes are kept from having a plain form by the same refusals. -/
theorem paired_normal_refusing {R : Datum → Datum → Prop} {outer : Bool} (refusals : Refusals)
    (reads : v.reads outer = w.reads outer) (paired : Paired R (v.normal outer) (w.normal outer)) :
    Paired R ((refusing refusals v).normal outer) ((refusing refusals w).normal outer) := by
  refine paired.given (fun d => normal_refusing_eq_ok_iff) fun e => ?_
  rw [reads]
  exact normal_refusing_eq_ok_iff

theorem forall₂_exchange {α : Type} {R : α → α → Prop} (refl : ∀ a, R a a) {a b : α}
    (here : R a b) (front back : List α) :
    List.Forall₂ R (front ++ a :: back) (front ++ b :: back) :=
  List.rel_append (List.forall₂_same.mpr fun a _ => refl a)
    (.cons here (List.forall₂_same.mpr fun a _ => refl a))

namespace SameContent

theorem refl (v : Value) : SameContent v v := ⟨.refl Datum.Same.refl _, .refl _⟩

theorem of_normal (left : v.Compound) (right : w.Compound)
    (normal : Paired (Datum.Same true) v.normal w.normal) : SameContent v w where
  normal := normal
  fragment := by
    rw [left.fragment_eq, right.fragment_eq]
    exact normal.concur_bind fun d e same => same.fragment_concur

theorem refusing (content : SameContent v w) (reads : ∀ outer, v.reads outer = w.reads outer)
    (refusals : Refusals) : SameContent (.refusing refusals v) (.refusing refusals w) where
  normal := paired_normal_refusing refusals (reads false) content.normal
  fragment := by
    intro text
    rw [fragment_refusing_eq_ok_iff, fragment_refusing_eq_ok_iff, reads true, content.fragment]

theorem items (content : SameContent x y) (front back : List Value) :
    Paired (List.Forall₂ (Datum.Same true)) (normalItems (front ++ x :: back))
      (normalItems (front ++ y :: back)) := by
  rw [normalItems_eq_mapM, normalItems_eq_mapM]
  exact Paired.mapM (forall₂_exchange (fun v => (refl v).normal) content.normal front back)

theorem fields (content : SameContent x y) (name : String) (front back : List (String × Value)) :
    Paired (Table.Alike (Datum.Same true)) (normalFields (front ++ (name, x) :: back))
      (normalFields (front ++ (name, y) :: back)) := by
  rw [normalFields_eq_mapM, normalFields_eq_mapM]
  refine Paired.mapM (forall₂_exchange (fun field => ?_) ?_ front back)
  · exact (refl field.2).normal.map fun d e same => ⟨rfl, same⟩
  · exact content.normal.map fun d e same => ⟨rfl, same⟩

end SameContent

theorem normalDump_getD (v : Value) (own : Datum) :
    (do return (← normalDump (.gives v)).getD own) = v.normal := by
  rw [normalDump]
  cases v.normal <;> rfl

/-- An object is read through the request for a dump, and where that fails through its text. -/
theorem sameContent_object {words : Option String} {attributes attributes' : List (String × Value)}
    {equality equality' : Hook Value} {untestable : Bool} {dump dump' : Hook Value}
    (answered : (object words attributes equality untestable dump).answered? =
      (object words attributes' equality' untestable dump').answered?)
    (dumps : dump = dump' ∨ ∃ x y, SameContent x y ∧ dump = .gives x ∧ dump' = .gives y) :
    SameContent (.object words attributes equality untestable dump)
      (.object words attributes' equality' untestable dump') := by
  have shown : (object words attributes equality untestable dump).displayOrPlace =
      (object words attributes' equality' untestable dump').displayOrPlace := by
    rcases dumps with rfl | ⟨x, y, -, rfl, rfl⟩
    · cases words <;> cases dump <;> rfl
    · cases words <;> rfl
  refine .of_normal trivial trivial ?_
  rw [normal, normal, Refusals.allow_nil_bind, Refusals.allow_nil_bind, shown]
  dsimp only [answered?] at answered
  generalize Table.get? attributes dumpName = held?,
    Table.get? attributes' dumpName = other? at answered ⊢
  cases held? with
  | some held =>
      cases other? with
      | none => cases answered
      | some other =>
          rw [Option.map_some, Option.map_some, Option.some.injEq] at answered
          simp only [answered]
          exact .ok (.refl _)
  | none =>
      cases other? with
      | some other => cases answered
      | none =>
          rcases dumps with rfl | ⟨x, y, content, rfl, rfl⟩
          · exact .refl Datum.Same.refl _
          · simp only [normalDump_getD]
            exact content.normal

theorem paired_entry {k l : Value} (keys : SameContent k l) (values : SameContent v w) :
    Paired (fun a b : String × Datum => a.1 = b.1 ∧ Datum.Same true a.2 b.2)
      (do return (← k.fragment, ← v.normal)) (do return (← l.fragment, ← w.normal)) := by
  refine (paired_eq_iff.mpr keys.fragment).bind fun name name' same => ?_
  exact values.normal.map fun d e related => ⟨same, related⟩

theorem sameContent_dict {entries others : List (Value × Value)} (readOnly : Bool)
    (each : List.Forall₂ (fun a b => SameContent a.1 b.1 ∧ SameContent a.2 b.2) entries others) :
    SameContent (.dict readOnly entries) (.dict readOnly others) := by
  refine .of_normal trivial trivial ?_
  have parts : Paired (Table.Alike (Datum.Same true)) (normalEntries entries)
      (normalEntries others) := by
    rw [normalEntries_eq_mapM, normalEntries_eq_mapM]
    exact Paired.mapM (each.imp fun a b parts => paired_entry parts.1 parts.2)
  exact parts.map fun members members' alike => Datum.same_ofMembers alike

end Value

theorem Pattern.paired_normal {x y : Value} {p q : Pattern} (content : Value.SameContent x y)
    (exchanged : p.Exchanged x y q) : Paired (Datum.Same true) p.normal q.normal := by
  induction exchanged with
  | exact =>
      refine content.normal.map fun d e same => Datum.same_map ?_
      exact .cons ⟨rfl, same⟩ .nil
  | @element p q inner front back ih =>
      have parts : Paired (List.Forall₂ (Datum.Same true)) (normalPatterns (front ++ p :: back))
          (normalPatterns (front ++ q :: back)) := by
        rw [normalPatterns_eq_mapM, normalPatterns_eq_mapM]
        exact Paired.mapM (Value.forall₂_exchange (R := fun p q =>
          Paired (Datum.Same true) p.normal q.normal) (fun p => .refl Datum.Same.refl p.normal)
          ih front back)
      refine parts.map fun ds es related => Datum.same_map ?_
      exact .cons ⟨rfl, .list related⟩ .nil
  | @field p q inner cls name front back ih =>
      have parts : Paired (List.Forall₂ (Datum.Same true))
          (normalMatchers (front ++ (name, p) :: back))
          (normalMatchers (front ++ (name, q) :: back)) := by
        rw [normalMatchers_eq_mapM, normalMatchers_eq_mapM]
        refine Paired.mapM (Value.forall₂_exchange (fun field => ?_) ?_ front back)
        · exact .refl Datum.Same.refl _
        · exact ih.map fun d e same => .list (.cons (.refl _) (.cons same .nil))
      refine parts.map fun ds es related => Datum.same_map ?_
      exact .cons ⟨rfl, .refl _⟩ (.cons ⟨rfl, .list related⟩ .nil)

namespace Value

variable {v w x y : Value}

/-- Nothing is read of a value that depends on what its parts are. -/
theorem Exchanged.reads_eq (exchanged : Exchanged x y v w) (outer : Bool) :
    v.reads outer = w.reads outer := by
  induction exchanged with
  | refusing refusals inner ih => exact ih
  | dataField cls name front back missing => simp only [reads, List.map_append, List.map_cons]
  | _ => rfl

theorem ExchangedAside.reads_eq (exchanged : ExchangedAside x y v w) (outer : Bool) :
    v.reads outer = w.reads outer := by
  induction exchanged with
  | refusing refusals inner ih => exact ih
  | _ => rfl

theorem sameContent_member (mixin : Mixin) (cls name : String) (content : SameContent x y) :
    SameContent (.member mixin cls name x) (.member mixin cls name y) where
  normal := by
    rw [Value.normal, Value.normal, Refusals.allow_nil_bind, Refusals.allow_nil_bind]
    cases mixin.normal? false with
    | some d => exact .ok (.refl d)
    | none => exact content.normal
  fragment := by
    cases mixin with
    | text s => exact .refl _
    | _ => exact content.fragment

theorem normal_data (cls : String) (fields : List (String × Value)) (missing : List String) :
    (data cls fields missing).normal = (do
      return .map ((← normalFields fields) ++ missing.map fun name => (name, .null))) := by
  have readable : (missing.forM fun name => Refusals.allow [] (.attribute name)) = .ok () :=
    Refusals.forM_allow_eq_ok_iff.mpr fun name _ => rfl
  rw [normal, readable]
  rfl

theorem SameContent.exchanged (content : SameContent x y) (exchanged : Exchanged x y v w)
    (written : ¬ v.Displayed) (answered : v.answered? = w.answered?) : SameContent v w := by
  induction exchanged with
  | listItem front back =>
      refine .of_normal trivial trivial ?_
      exact (content.items front back).map fun ds es related => .list related
  | tupleItem front back =>
      refine .of_normal trivial trivial ?_
      exact (content.items front back).map fun ds es related => .list related
  | element frozen front back =>
      refine .of_normal trivial trivial ?_
      refine (content.items front back).bind fun ds es related => ?_
      exact (paired_sortedItems related).map fun ds es related => .list related
  | key readOnly front back value =>
      exact sameContent_dict readOnly
        (forall₂_exchange (fun _ => ⟨.refl _, .refl _⟩) ⟨content, .refl value⟩ front back)
  | entry readOnly front back k =>
      exact sameContent_dict readOnly
        (forall₂_exchange (fun _ => ⟨.refl _, .refl _⟩) ⟨.refl k, content⟩ front back)
  | member mixin cls name => exact sameContent_member mixin cls name content
  | dataField cls name front back missing =>
      refine .of_normal trivial trivial ?_
      rw [normal_data, normal_data]
      refine (content.fields name front back).map fun members members' alike => ?_
      refine Datum.same_map (List.rel_append alike ?_)
      exact List.forall₂_same.mpr fun member _ => ⟨rfl, .refl _⟩
  | namedField cls name front back =>
      refine .of_normal trivial trivial ?_
      have made : (Table.get? (front ++ (name, x) :: back) dumpName).bind dumped? ≠ some none :=
        written
      have fields := content.fields name front back
      rw [Value.normal, Value.normal, Refusals.allow_nil_bind, Refusals.allow_nil_bind]
      rw [← show (Table.get? (front ++ (name, x) :: back) dumpName).bind dumped? =
        (Table.get? (front ++ (name, y) :: back) dumpName).bind dumped? from answered]
      split
      · rename_i dumped asked
        cases dumped with
        | none => exact absurd asked made
        | some d => exact .ok (.refl d)
      · exact fields.map fun members members' alike => .list alike.values
  | dump words attributes equality untestable =>
      exact sameContent_object rfl (.inr ⟨x, y, content, rfl, rfl⟩)
  | looked status =>
      refine .of_normal trivial trivial ?_
      refine content.normal.map fun d e same => Datum.same_map ?_
      exact .cons ⟨rfl, .refl _⟩ (.cons ⟨rfl, same⟩ .nil)
  | pattern inner =>
      exact .of_normal trivial trivial (Pattern.paired_normal content inner)
  | refusing refusals inner ih =>
      exact (ih written answered).refusing inner.reads_eq refusals

theorem ExchangedAside.sameContent (exchanged : ExchangedAside x y v w)
    (answered : v.answered? = w.answered?) : SameContent v w := by
  induction exchanged with
  | objectAttribute words name front back equality untestable dump =>
      exact sameContent_object answered (.inl rfl)
  | equality words attributes untestable dump =>
      exact sameContent_object rfl (.inl rfl)
  | knownPart cls name front back => exact .of_normal trivial trivial (.ok (.refl _))
  | refusing refusals inner ih => exact (ih answered).refusing inner.reads_eq refusals

end Value

/-! ## Similar values -/

/-- What containers read of two values is the same. -/
structure Value.Similar (v w : Value) : Prop where
  asked : v.dumped? = w.dumped?
  normal : Paired (Datum.Same true) v.normal w.normal
  fragment : Concur v.fragment w.fragment

namespace Value

variable {v w x y : Value}

/-! ### The request for a dump -/

theorem asked_under (asked : x.dumped? = y.dumped?) (name key : String)
    (front back : List (String × Value)) :
    Option.Rel (fun v w => v.dumped? = w.dumped?) (Table.get? (front ++ (name, x) :: back) key)
      (Table.get? (front ++ (name, y) :: back) key) := by
  have alike : Table.Alike (fun v w => v.dumped? = w.dumped?) (front ++ (name, x) :: back)
      (front ++ (name, y) :: back) :=
    forall₂_exchange (fun _ => ⟨rfl, rfl⟩) ⟨rfl, asked⟩ front back
  exact alike.get? key

theorem dumped?_under (asked : x.dumped? = y.dumped?) (name key : String)
    (front back : List (String × Value)) :
    (Table.get? (front ++ (name, x) :: back) key).bind dumped? =
      (Table.get? (front ++ (name, y) :: back) key).bind dumped? := by
  have found := asked_under asked name key front back
  generalize Table.get? (front ++ (name, x) :: back) key = held?,
    Table.get? (front ++ (name, y) :: back) key = other? at found ⊢
  cases found with
  | none => rfl
  | some same => exact same

theorem Exchanged.answered?_eq (exchanged : Exchanged x y v w) (asked : x.dumped? = y.dumped?) :
    v.answered? = w.answered? := by
  induction exchanged with
  | namedField cls name front back => exact dumped?_under asked name dumpName front back
  | refusing refusals inner ih => exact ih
  | _ => rfl

theorem Exchanged.dumped?_eq (exchanged : Exchanged x y v w) : v.dumped? = w.dumped? := by
  induction exchanged with
  | refusing refusals inner ih => exact ih
  | _ => rfl

theorem ExchangedAside.dumped?_eq (exchanged : ExchangedAside x y v w) :
    v.dumped? = w.dumped? := by
  induction exchanged with
  | refusing refusals inner ih => exact ih
  | _ => rfl

theorem ExchangedAside.answered?_eq (exchanged : ExchangedAside x y v w)
    (asked : x.dumped? = y.dumped?) : v.answered? = w.answered? := by
  induction exchanged with
  | refusing refusals inner ih => exact ih
  | objectAttribute words name front back equality untestable dump =>
      have found := asked_under asked name dumpName front back
      simp only [answered?]
      generalize Table.get? (front ++ (name, x) :: back) dumpName = held?,
        Table.get? (front ++ (name, y) :: back) dumpName = other? at found ⊢
      cases found with
      | none => rfl
      | some same => rw [Option.map_some, Option.map_some, same]
  | _ => rfl

namespace Similar

theorem content (similar : Similar v w) : SameContent v w := ⟨similar.normal, similar.fragment⟩

theorem of_content (asked : v.dumped? = w.dumped?) (content : SameContent v w) : Similar v w :=
  ⟨asked, content.normal, content.fragment⟩

theorem of_normal (left : v.Compound) (right : w.Compound)
    (normal : Paired (Datum.Same true) v.normal w.normal) : Similar v w :=
  .of_content (left.dumped?_eq_none.trans right.dumped?_eq_none.symm) (.of_normal left right normal)

theorem refusing (similar : Similar v w) (reads : ∀ outer, v.reads outer = w.reads outer)
    (refusals : Refusals) : Similar (.refusing refusals v) (.refusing refusals w) :=
  .of_content similar.asked (similar.content.refusing reads refusals)

theorem exchanged (similar : Similar x y) (exchanged : Exchanged x y v w)
    (written : ¬ v.Displayed) : Similar v w := by
  refine .of_content exchanged.dumped?_eq ?_
  exact similar.content.exchanged exchanged written (exchanged.answered?_eq similar.asked)

theorem aside (similar : Similar x y) (exchanged : ExchangedAside x y v w) : Similar v w :=
  .of_content exchanged.dumped?_eq
    (exchanged.sameContent (exchanged.answered?_eq similar.asked))

end Similar

end Value

end CachePolicy
