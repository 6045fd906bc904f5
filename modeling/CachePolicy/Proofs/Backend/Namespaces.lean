import CachePolicy.Backend.Remote
import CachePolicy.Proofs.Table
import CachePolicy.Settings.Basic
import Mathlib.Data.List.Infix

/-!
# Namespaces over one store

Remote backends of several namespaces can share a store, where each finds its keys behind
its own prefix.  Two namespaces are isolated when no write through one backend is seen
through the other.  Prefixes are not escaped, so this takes more than different names: the
empty namespace encloses every other one, and so does a namespace that another one begins
with, up to a colon.  No other pairs of namespaces overlap.
-/

namespace CachePolicy

variable {ρ : Type}

/-! ## Writes to a shared store -/

/-- A write, which the store may answer with a given reply instead of carrying it out. -/
inductive StoreWrite where
  | put (reply : Option StoreReply) (key : String) (value : Value) (options : Table String Value)
  | delete (reply : Option StoreReply) (key : String)

def StoreWrite.key : StoreWrite → String
  | put _ key _ _ | delete _ key => key

namespace RemoteBackend

def sharing (asynchronous : Bool) (name : String) (entries : Table String ρ) : RemoteBackend ρ :=
  ⟨asynchronous, namespacePrefix name, entries⟩

def write (z : Serializer ρ) (b : RemoteBackend ρ) : StoreWrite → RemoteBackend ρ
  | .put reply key value options => (b.put z reply key value options).backend
  | .delete reply key => (b.delete reply key).backend

/-- What the store holds after writes through the backend of a namespace. -/
def written (z : Serializer ρ) (asynchronous : Bool) (name : String) (entries : Table String ρ)
    (writes : List StoreWrite) : Table String ρ :=
  (writes.foldl (write z) (sharing asynchronous name entries)).entries

def isOwn (name place : String) : Bool :=
  (namespacePrefix name).toList.isPrefixOf place.toList

def own (name : String) (entries : Table String ρ) : Table String ρ :=
  entries.filter fun entry => isOwn name entry.1

theorem isOwn_iff {name place : String} :
    isOwn name place = true ↔ (namespacePrefix name).toList <+: place.toList :=
  List.isPrefixOf_iff_prefix

/-- What a write does to the entries: nothing, or it puts or erases one under its own key. -/
theorem write_cases (z : Serializer ρ) (b : RemoteBackend ρ) (w : StoreWrite) :
    b.write z w = b ∨
      (∃ record, b.write z w = { b with entries := b.entries.put (b.keyPrefix ++ w.key) record }) ∨
      b.write z w = { b with entries := b.entries.erase (b.keyPrefix ++ w.key) } := by
  cases w with
  | put reply key value options =>
      simp only [write, RemoteBackend.put]
      cases z.dump value with
      | error fault => exact .inl rfl
      | ok record =>
          cases reply with
          | none => exact .inr (.inl ⟨record, rfl⟩)
          | some reply => cases reply <;> exact .inl rfl
  | delete reply key =>
      simp only [write, RemoteBackend.delete]
      cases reply with
      | none => exact .inr (.inr rfl)
      | some reply => cases reply <;> exact .inl rfl

@[simp] theorem write_keyPrefix (z : Serializer ρ) (b : RemoteBackend ρ) (w : StoreWrite) :
    (b.write z w).keyPrefix = b.keyPrefix := by
  rcases write_cases z b w with same | ⟨record, same⟩ | same <;> rw [same]

/-- Who does not look at the key of a write sees the same entries behind it. -/
theorem filter_write {z : Serializer ρ} {b : RemoteBackend ρ} {w : StoreWrite}
    {p : String → Bool} (unseen : p (b.keyPrefix ++ w.key) = false) :
    (b.write z w).entries.filter (fun entry => p entry.1) =
      b.entries.filter fun entry => p entry.1 := by
  rcases write_cases z b w with same | ⟨record, same⟩ | same
  · rw [same]
  · rw [same]
    exact Table.filter_put_of_not unseen record
  · rw [same]
    exact Table.filter_erase_of_not unseen

theorem filter_writes {z : Serializer ρ} {writes : List StoreWrite} {b : RemoteBackend ρ}
    {p : String → Bool} (unseen : ∀ w ∈ writes, p (b.keyPrefix ++ w.key) = false) :
    (writes.foldl (write z) b).entries.filter (fun entry => p entry.1) =
      b.entries.filter fun entry => p entry.1 := by
  induction writes generalizing b with
  | nil => rfl
  | cons w rest ih =>
      have behind : ∀ later ∈ rest, p ((b.write z w).keyPrefix ++ later.key) = false := by
        intro later member
        rw [write_keyPrefix]
        exact unseen later (List.mem_cons_of_mem _ member)
      rw [List.foldl_cons, ih behind, filter_write (unseen w List.mem_cons_self)]

/-- A read sees the entry under its own place and no other one. -/
theorem get_result_congr {entries others : Table String ρ} {name key : String}
    (same : entries.get? (namespacePrefix name ++ key) =
      others.get? (namespacePrefix name ++ key))
    (z : Serializer ρ) (asynchronous : Bool) (reply : Option StoreReply) :
    ((sharing asynchronous name entries).get z reply key).result =
      ((sharing asynchronous name others).get z reply key).result := by
  rcases reply with _ | failure | value | raw
  · simp only [RemoteBackend.get, sharing, same]
  · simp only [RemoteBackend.get]
    split <;> rfl
  · unfold RemoteBackend.get
    split <;> simp_all
  · rfl

/-! ## Isolation -/

/-- No write through the first namespace changes an entry or an answer of the second one. -/
def Isolated (z : Serializer ρ) (name other : String) : Prop :=
  ∀ (asynchronous asynchronous' : Bool) (entries : Table String ρ) (writes : List StoreWrite),
    let after := written z asynchronous name entries writes
    own other after = own other entries ∧
      ∀ reply key, ((sharing asynchronous' other after).get z reply key).result =
        ((sharing asynchronous' other entries).get z reply key).result

def Encloses (outer inner : String) : Prop :=
  outer = "" ∨ ∃ rest, inner = outer ++ ":" ++ rest

theorem encloses_iff {outer inner : String} :
    Encloses outer inner ↔ outer = "" ∨ outer.toList ++ [':'] <+: inner.toList := by
  refine or_congr_right ⟨?_, ?_⟩
  · rintro ⟨rest, rfl⟩
    exact ⟨rest.toList, by simp⟩
  · rintro ⟨rest, whole⟩
    refine ⟨String.ofList rest, String.toList_injective ?_⟩
    simp [← whole]

instance (outer inner : String) : Decidable (Encloses outer inner) :=
  decidable_of_iff _ encloses_iff.symm

variable {name other : String}

/-- A prefix begins with another one for the same namespace and for one that encloses it. -/
theorem namespacePrefix_isPrefix_iff :
    (namespacePrefix name).toList <+: (namespacePrefix other).toList ↔
      name = other ∨ Encloses name other := by
  rw [encloses_iff]
  by_cases outermost : name = ""
  · simp [namespacePrefix, outermost]
  · have begins : (namespacePrefix name).toList = name.toList ++ [':'] := by
      simp [namespacePrefix, outermost]
    by_cases empty : other = ""
    · rw [begins]
      simp [namespacePrefix, empty, outermost]
    · have ends : (namespacePrefix other).toList = other.toList ++ [':'] := by
        simp [namespacePrefix, empty]
      rw [begins, ends, List.prefix_concat_iff, List.append_left_inj, String.toList_inj]
      simp [outermost]

theorem isolated_of_not_encloses (z : Serializer ρ) (distinct : name ≠ other)
    (outside : ¬ Encloses name other) (outside' : ¬ Encloses other name) :
    Isolated z name other := by
  intro asynchronous asynchronous' entries writes after
  have unseen : ∀ key, isOwn other (namespacePrefix name ++ key) = false := by
    intro key
    rw [← Bool.not_eq_true, isOwn_iff, String.toList_append]
    intro overlap
    rcases List.prefix_or_prefix_of_prefix overlap (List.prefix_append _ key.toList) with le | le
    · rcases namespacePrefix_isPrefix_iff.mp le with same | encloses
      · exact distinct same.symm
      · exact outside' encloses
    · rcases namespacePrefix_isPrefix_iff.mp le with same | encloses
      · exact distinct same
      · exact outside encloses
  have kept : own other after = own other entries :=
    filter_writes fun w _ => unseen w.key
  refine ⟨kept, fun reply key => get_result_congr ?_ z asynchronous' reply⟩
  have seen : isOwn other (namespacePrefix other ++ key) = true := by
    rw [isOwn_iff, String.toList_append]
    exact List.prefix_append _ _
  have lookUp : ∀ t : Table String ρ, (own other t).get? (namespacePrefix other ++ key) =
      t.get? (namespacePrefix other ++ key) := fun t => Table.get?_filter seen
  rw [← lookUp after, ← lookUp entries, kept]

/-- Where the prefixes overlap some key of each namespace stands for the other's. -/
theorem not_isolated_of_encloses (z : Serializer ρ) (record : ρ)
    (overlap : Encloses name other ∨ Encloses other name) : ¬ Isolated z name other := by
  obtain ⟨key, key', place⟩ : ∃ key key',
      namespacePrefix name ++ key = namespacePrefix other ++ key' := by
    rcases overlap with encloses | encloses
    · obtain ⟨rest, whole⟩ := namespacePrefix_isPrefix_iff.mpr (.inr encloses)
      refine ⟨String.ofList rest, "", String.toList_injective ?_⟩
      simp [← whole]
    · obtain ⟨rest, whole⟩ := namespacePrefix_isPrefix_iff.mpr (.inr encloses)
      refine ⟨"", String.ofList rest, String.toList_injective ?_⟩
      simp [← whole]
  intro isolated
  have kept := (isolated false false [(namespacePrefix name ++ key, record)]
    [.delete none key]).1
  have erased : written z false name [(namespacePrefix name ++ key, record)]
      [.delete none key] = [] := by
    simp [written, write, RemoteBackend.delete, sharing, Table.erase]
  have seen : isOwn other (namespacePrefix name ++ key) = true := by
    rw [place, isOwn_iff, String.toList_append]
    exact List.prefix_append _ _
  rw [erased] at kept
  simp [own, seen] at kept

/-- Namespaces are isolated unless one encloses the other, and even then a write is seen only
under the key it is made with. -/
theorem isolated_iff (z : Serializer ρ) (record : ρ) (distinct : name ≠ other) :
    (Isolated z name other ↔ ¬ Encloses name other ∧ ¬ Encloses other name) ∧
      ∀ (asynchronous asynchronous' : Bool) (entries : Table String ρ)
        (writes : List StoreWrite) (key : String),
        (∀ w ∈ writes, namespacePrefix name ++ w.key ≠ namespacePrefix other ++ key) →
        let after := written z asynchronous name entries writes
        let place := namespacePrefix other ++ key
        after.get? place = entries.get? place ∧
          ∀ reply, ((sharing asynchronous' other after).get z reply key).result =
            ((sharing asynchronous' other entries).get z reply key).result := by
  constructor
  · constructor
    · intro isolated
      exact ⟨fun encloses => not_isolated_of_encloses z record (.inl encloses) isolated,
        fun encloses => not_isolated_of_encloses z record (.inr encloses) isolated⟩
    · rintro ⟨outside, outside'⟩
      exact isolated_of_not_encloses z distinct outside outside'
  · intro asynchronous asynchronous' entries writes key elsewhere after place
    have unseen : ∀ w ∈ writes, decide (namespacePrefix name ++ w.key = place) = false :=
      fun w member => decide_eq_false (elsewhere w member)
    have kept := filter_writes (z := z) (b := sharing asynchronous name entries)
      (p := fun k => decide (k = place)) unseen
    have lookUp : ∀ t : Table String ρ,
        Table.get? (t.filter fun entry => decide (entry.1 = place)) place = t.get? place :=
      fun t => Table.get?_filter (p := fun k => decide (k = place)) (decide_eq_true rfl)
    have same : after.get? place = entries.get? place := by
      rw [← lookUp after, ← lookUp entries]
      exact congrArg (Table.get? · place) kept
    exact ⟨same, get_result_congr same z asynchronous'⟩

/-- A name that another one begins with is enclosed only behind a colon.  A namespace that is
enclosed keeps what the outer one does not write under its keys. -/
theorem isolated_iff_similar_names :
    let writes : List StoreWrite :=
      [.put none "shop:7" (.text "Ann") [("ttl", .int 60)], .delete none "app", .delete none ":7"]
    let entries : Table String Value := [("app:7", .text "Eve"), ("shop:7", .null)]
    let after := written .plain true "" entries writes
    "app" ≠ "apps" ∧ Isolated (ρ := Value) .plain "app" "apps" ∧ "" ≠ "app" ∧
      (∀ w ∈ writes, namespacePrefix "" ++ w.key ≠ namespacePrefix "app" ++ "7") ∧
      after.get? (namespacePrefix "app" ++ "7") = some (.text "Eve") := by
  intro writes entries after
  have apart : ¬ Encloses "app" "apps" ∧ ¬ Encloses "apps" "app" := by decide
  have elsewhere : ∀ w ∈ writes, namespacePrefix "" ++ w.key ≠ namespacePrefix "app" ++ "7" := by
    decide
  have isolated := (isolated_iff (ρ := Value) .plain .null (by decide : "app" ≠ "apps")).1.mpr apart
  have kept := (isolated_iff (ρ := Value) .plain .null (by decide : "" ≠ "app")).2
    true false entries writes "7" elsewhere
  exact ⟨by decide, isolated, by decide, elsewhere, kept.1⟩

/-- Settings take both names, yet the inner namespace finds what the outer one has put; the
namespace that no setting names encloses them both. -/
theorem enclosed_namespace_overwritten :
    let namespaceOf (values : Table String Value) := (Settings.read [] values).map (·.namespaceName)
    let after := written .plain false "app" [] [.put none "user:7" (.text "Ann") []]
    let after' := written .plain false "" [] [.put none "app:user:7" (.text "Ann") []]
    let found (entries : Table String Value) :=
      ((sharing true "app:user" entries).get .plain none "7").result
    namespaceOf [("namespace", .text "app")] = .ok "app" ∧
      namespaceOf [("namespace", .text "app:user")] = .ok "app:user" ∧
      namespaceOf [] = .ok "" ∧
      found [] = .ok .miss ∧ found after = .ok (.hit (.text "Ann")) ∧
      found after' = .ok (.hit (.text "Ann")) ∧
      own "app:user" ([] : Table String Value) = [] ∧
      own "app:user" after = [("app:user:7", .text "Ann")] := by
  intro namespaceOf after after' found
  exact ⟨by cbv, by cbv, by cbv, rfl, rfl, rfl, rfl, rfl⟩

end RemoteBackend

end CachePolicy
