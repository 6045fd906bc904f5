import CachePolicy.Proofs.Memory.Site
import CachePolicy.Proofs.Table

/-!
# Coherence of a memory backend

A source gives every key its current value in the world.  Calls are lawful when cached
bodies only read the source and a body that changes it at a key also has that key
deleted.  After any history of lawful calls no stored value is out of date, and so a
cached call gives the current value of its key whether or not its body ran.
-/

namespace CachePolicy

variable {ω : Type} {source : ω → String → Value} {c : Call ω} {s after : Site ω}
  {runs : List (Except Fault Value)} {result : Except Fault Value} {key : String} {value : Value}
  {world : ω}

namespace Call

structure Lawful (source : ω → String → Value) (c : Call ω) (s : Site ω) : Prop where
  reads : c.operation.mode = .cache → ∀ key value, c.key = .ok key → .ok value ∈ c.runs s →
    value = source s.world key
  keeps : c.operation.mode = .cache → source (c.perform s).2.world = source s.world
  changes : c.operation.mode = .invalidate → ∀ key,
    source (c.perform s).2.world key ≠ source s.world key →
      c.key = .ok key ∧
        ∃ value, .ok value ∈ c.runs s ∧ c.operation.guard.holds value = .ok true

end Call

namespace Site

/-- The sites that a history of lawful calls can lead to, with the backend cleared now and then. -/
inductive Reachable (source : ω → String → Value) : Site ω → Prop
  | fresh (name : String) (world : ω) : Reachable source ⟨.empty name, world⟩
  | cleared {s : Site ω} (before : Reachable source s) : Reachable source s.clear
  | called {s : Site ω} (before : Reachable source s) (c : Call ω) (lawful : c.Lawful source s) :
      Reachable source (c.perform s).2

def Coherent (source : ω → String → Value) (s : Site ω) : Prop :=
  ∀ entry ∈ s.store.entries, ∃ key,
    entry = (s.store.keyPrefix ++ key, source s.world key)

/-! ## What keeps a site coherent -/

theorem Coherent.recalled (coherent : s.Coherent source) (held : s.store.Recalls key value) :
    value = source s.world key := by
  obtain ⟨other, same⟩ := coherent _ (Table.mem_of_get? held.1)
  have sameKey : key = other :=
    (String.append_right_inj s.store.keyPrefix).mp (congrArg Prod.fst same)
  rw [sameKey]
  exact congrArg Prod.snd same

theorem Coherent.moved (coherent : s.Coherent source) (kept : source world = source s.world) :
    Coherent source ⟨s.store, world⟩ := by
  intro entry member
  obtain ⟨key, rfl⟩ := coherent entry member
  exact ⟨key, by rw [kept]⟩

theorem Coherent.put (coherent : s.Coherent source) (current : value = source s.world key) :
    Coherent source ⟨s.store.put key value, s.world⟩ := by
  intro entry member
  rcases Table.mem_of_mem_put member with rfl | old
  · exact ⟨key, by rw [current]; rfl⟩
  · exact coherent entry old

theorem Coherent.delete (coherent : s.Coherent source)
    (kept : ∀ other, other ≠ key → source world other = source s.world other) :
    Coherent source ⟨s.store.delete key, world⟩ := by
  intro entry member
  obtain ⟨old, otherPlace⟩ := Table.mem_erase_iff.mp member
  obtain ⟨other, rfl⟩ := coherent entry old
  have otherKey : other ≠ key := fun same => otherPlace (by rw [same])
  refine ⟨other, ?_⟩
  rw [kept other otherKey]
  rfl

theorem Coherent.clear (s : Site ω) : s.clear.Coherent source := by
  intro entry member
  cases member

/-! ## Calls -/

/-- The value of a cached call is the stored one, which is current, or the one that its body
has just read. -/
theorem Coherent.reads (coherent : s.Coherent source) (reads : c.Reads s runs result after)
    (current : ∀ key value, c.key = .ok key → .ok value ∈ runs → value = source s.world key)
    (kept : source after.world = source s.world) :
    after.Coherent source ∧
      ∀ value, result = .ok value → ∃ key, c.key = .ok key ∧ value = source s.world key := by
  cases reads with
  | unrendered rendered => exact ⟨coherent, nofun⟩
  | recalled rendered held =>
      refine ⟨coherent, ?_⟩
      rintro value ⟨⟩
      exact ⟨_, rendered, coherent.recalled held⟩
  | missed rendered nothing rest =>
      cases rest with
      | raised ran => exact ⟨coherent.moved kept, nofun⟩
      | undecided ran guard => exact ⟨coherent.moved kept, nofun⟩
      | skipped ran guard =>
          refine ⟨coherent.moved kept, ?_⟩
          rintro value ⟨⟩
          exact ⟨_, rendered, current _ _ rendered List.mem_cons_self⟩
      | passed ran guard stores =>
          cases stores with
          | mk =>
              have read := current _ _ rendered List.mem_cons_self
              constructor
              · exact (coherent.moved kept).put (by rw [read, kept])
              · rintro value ⟨⟩
                exact ⟨_, rendered, read⟩

/-- A key at which the source changed is the one that is deleted, unless the guard or the key
failed, and then the source did not change. -/
theorem Coherent.invalidates (coherent : s.Coherent source)
    (invalidates : c.Invalidates s runs result after)
    (changes : ∀ key, source after.world key ≠ source s.world key → c.key = .ok key ∧
      ∃ value, .ok value ∈ runs ∧ c.operation.guard.holds value = .ok true) :
    after.Coherent source := by
  have kept (unchanged : ∀ key, ¬ (c.key = .ok key ∧
      ∃ value, .ok value ∈ runs ∧ c.operation.guard.holds value = .ok true)) :
      source after.world = source s.world := by
    funext key
    exact Classical.byContradiction fun changed => unchanged key (changes key changed)
  cases invalidates with
  | raised ran => exact coherent.moved (kept (by simp))
  | undecided ran guard => exact coherent.moved (kept (by simp [guard]))
  | skipped ran guard => exact coherent.moved (kept (by simp [guard]))
  | passed ran guard deletes =>
      cases deletes with
      | unrendered rendered => exact coherent.moved (kept (by simp [rendered]))
      | @mk key rendered =>
          refine coherent.delete fun other different => Classical.byContradiction fun changed => ?_
          have same := (changes other changed).1
          rw [rendered] at same
          exact different (Except.ok.inj same).symm

theorem Coherent.perform (coherent : s.Coherent source) (lawful : c.Lawful source s) :
    (c.perform s).2.Coherent source := by
  cases mode : c.operation.mode with
  | cache => exact (coherent.reads (c.reads s mode) (lawful.reads mode) (lawful.keeps mode)).1
  | invalidate => exact coherent.invalidates (c.invalidates s mode) (lawful.changes mode)

theorem Reachable.coherent (reachable : Reachable source s) : s.Coherent source := by
  induction reachable with
  | fresh name world => exact nofun
  | cleared before _ => exact .clear _
  | called before c lawful ih => exact ih.perform lawful

/-- Bodies are taken to leave the values that they were given or have returned as they are: what a
key holds is changed by puts and deletions, and never in place. -/
theorem reachable_current (reachable : Reachable source s) :
    s.Coherent source ∧
      ∀ c : Call ω, c.Lawful source s → c.operation.mode = .cache →
        ∀ value, (c.perform s).1 = .ok value →
          ∃ key, c.key = .ok key ∧ value = source s.world key := by
  refine ⟨reachable.coherent, fun c lawful mode => ?_⟩
  exact (reachable.coherent.reads (c.reads s mode) (lawful.reads mode) (lawful.keeps mode)).2

end Site

/-! ## Lawful bodies -/

namespace Call

theorem Lawful.of_reading (caches : c.operation.mode = .cache)
    (reads : ∀ key value, c.key = .ok key → (c.body s.world).1 = .ok value →
      value = source s.world key)
    (keeps : source (c.body s.world).2 = source s.world) : c.Lawful source s where
  reads _ key value rendered ran := by
    rcases (c.reads s caches).ran with ⟨noRun, -⟩ | ⟨ranOnce, -⟩
    · simp [noRun] at ran
    · rw [ranOnce, List.mem_singleton] at ran
      exact reads key value rendered ran.symm
  keeps _ := by
    rcases (c.reads s caches).ran with ⟨-, still⟩ | ⟨-, moved⟩
    · rw [still]
    · rw [moved, keeps]
  changes invalidates := by simp [caches] at invalidates

theorem Lawful.of_changing (invalidates : c.operation.mode = .invalidate)
    (changes : ∀ key, source (c.body s.world).2 key ≠ source s.world key → c.key = .ok key ∧
      ∃ value, (c.body s.world).1 = .ok value ∧ c.operation.guard.holds value = .ok true) :
    c.Lawful source s where
  reads caches := by simp [invalidates] at caches
  keeps caches := by simp [invalidates] at caches
  changes _ key changed := by
    obtain ⟨ranOnce, moved⟩ := (c.invalidates s invalidates).ran
    rw [moved] at changed
    obtain ⟨rendered, value, ran, guard⟩ := changes key changed
    exact ⟨rendered, value, by rw [ranOnce, ran]; exact List.mem_cons_self, guard⟩

end Call

/-! ## A history -/

/-- The source of a world in which there is one user. -/
def userSource (user : Value) (key : String) : Value := if key = "user:7" then user else .null

def lookUp : Call Value where
  operation := findUser
  style := .direct
  bindings := [("user", .text "7")]
  config := .null
  body user := (.ok user, user)

def rename (user : Value) : Call Value where
  operation := { findUser with name := "app.rename/2", mode := .invalidate, guard := .always }
  style := .awaiting
  bindings := [("user", .text "7")]
  config := .null
  body _ := (.ok (.flag true), user)

theorem lookUp_lawful (s : Site Value) : lookUp.Lawful userSource s := by
  refine .of_reading rfl ?_ rfl
  rintro key value rendered ⟨⟩
  have isKey : lookUp.key = .ok "user:7" := rfl
  rw [isKey] at rendered
  cases rendered
  rfl

theorem rename_lawful (user : Value) (s : Site Value) : (rename user).Lawful userSource s := by
  refine .of_changing rfl fun key changed => ?_
  have isKey : (rename user).key = .ok "user:7" := rfl
  have same : key = "user:7" := by
    refine Classical.byContradiction fun other => changed ?_
    simp [userSource, other]
  exact ⟨by rw [isKey, same], _, rfl, rfl⟩

/-- A user is stored and renamed, and the new name is found. -/
theorem Site.reachable_current_renamed :
    let old : Value := .tuple [.text "ok", .text "Ann"]
    let new : Value := .tuple [.text "ok", .text "Bea"]
    let stored := (lookUp.perform ⟨.empty "app", old⟩).2
    let s := ((rename new).perform stored).2
    Reachable userSource s ∧ lookUp.Lawful userSource s ∧ lookUp.operation.mode = .cache ∧
      (lookUp.perform s).1 = .ok new ∧
      (s.Coherent userSource ∧
        ∃ key, lookUp.key = .ok key ∧ new = userSource s.world key) := by
  intro old new stored s
  have reachable : Reachable userSource s :=
    .called (.called (.fresh "app" old) lookUp (lookUp_lawful _)) (rename new) (rename_lawful new _)
  have ⟨coherent, current⟩ := Site.reachable_current reachable
  have returned : (lookUp.perform s).1 = .ok new := rfl
  exact ⟨reachable, lookUp_lawful s, rfl, returned, coherent,
    current lookUp (lookUp_lawful s) rfl new returned⟩

end CachePolicy
