import HassAgent.Registry

/-!
# `Add` racing other writers

Each registry call runs on its own goroutine and each badger transaction is
atomic, so a run is a schedule of transaction steps. `Add` takes two steps,
its `Get` and its `Set`, and another goroutine's `Set` may commit between them.
The state also lists the goroutine and key of every committed write. The code
keeps no such list; it is what lets "written after the `Get`" be stated.
A goroutine at `afterGet r n` is an `Add` between its two transactions, its
`Get` having returned `r` when `n` writes had committed. `Set` stands for
`Update` too, which runs it, and the error of a write is only logged. The event
`close` is the registry closed by the goroutine waiting on the agent's context.
-/

set_option autoImplicit false

namespace HassAgent.RegistryRace
open HassAgent.Registry

inductive Call where
  | add (id : String)
  | set (id : String) (values : RegistryValues)
  deriving DecidableEq, Repr

inductive Pc where
  | start
  | afterGet (r : Except DbError RegistryValues) (n : Nat)
  | done (ret : Option RegistryEntry)
  deriving DecidableEq

structure Sys where
  db : Db
  pcs : Nat → Pc
  commits : List (Nat × String)

def Sys.init (db : Db) : Sys := ⟨db, fun _ => .start, []⟩

def Sys.write (s : Sys) (i : Nat) (id : String) (v : RegistryValues) : Sys :=
  match set s.db id v with
  | .ok db => { s with db := db, commits := s.commits ++ [(i, id)] }
  | .error _ => s

def Sys.writeOpt (s : Sys) (i : Nat) (id : String) : Option RegistryValues → Sys
  | none => s
  | some v => s.write i id v

def Sys.move (s : Sys) (i : Nat) (pc : Pc) : Sys := { s with pcs := Function.update s.pcs i pc }

inductive Event where
  | go (i : Nat)
  | close

def step (calls : List Call) (s : Sys) : Event → Option Sys
  | .close => some { s with db := s.db.close }
  | .go i =>
    match calls[i]?, s.pcs i with
    | some (.set id v), .start => some ((s.write i id v).move i (.done none))
    | some (.add id), .start => some (s.move i (.afterGet (get s.db id) s.commits.length))
    | some (.add id), .afterGet r _ =>
      some ((s.writeOpt i id (addAfterGet id r).2).move i (.done (some (addAfterGet id r).1)))
    | _, _ => none

def run (calls : List Call) : Sys → List Event → Option Sys
  | s, [] => some s
  | s, e :: es => (step calls s e).bind (run calls · es)

@[simp] theorem move_db (s : Sys) (i : Nat) (pc : Pc) : (s.move i pc).db = s.db := rfl

@[simp] theorem move_commits (s : Sys) (i : Nat) (pc : Pc) :
    (s.move i pc).commits = s.commits := rfl

@[simp] theorem move_pcs_self (s : Sys) (i : Nat) (pc : Pc) : (s.move i pc).pcs i = pc := by
  simp [Sys.move]

theorem move_pcs_ne (s : Sys) {i j : Nat} (pc : Pc) (h : j ≠ i) : (s.move i pc).pcs j = s.pcs j := by
  simp [Sys.move, Function.update_noteq h]

@[simp] theorem write_pcs (s : Sys) (i : Nat) (id : String) (v : RegistryValues) :
    (s.write i id v).pcs = s.pcs := by
  unfold Sys.write; split <;> rfl

@[simp] theorem writeOpt_pcs (s : Sys) (i : Nat) (id : String) (w : Option RegistryValues) :
    (s.writeOpt i id w).pcs = s.pcs := by
  cases w <;> simp [Sys.writeOpt]

theorem write_cases (s : Sys) (i : Nat) (id : String) (v : RegistryValues) :
    s.write i id v = s ∨ ((s.write i id v).db.records = Function.update s.db.records id (some v) ∧
      (s.write i id v).commits = s.commits ++ [(i, id)]) := by
  unfold Sys.write Registry.set
  split <;> rename_i h
  · split at h
    · cases h
    · cases h
      exact .inr ⟨rfl, rfl⟩
  · exact .inl rfl

theorem writeOpt_cases (s : Sys) (i : Nat) (id : String) (w : Option RegistryValues) :
    s.writeOpt i id w = s ∨ ∃ v, s.writeOpt i id w = s.write i id v := by
  cases w with
  | none => exact .inl rfl
  | some v => exact .inr ⟨v, rfl⟩

theorem step_cases {calls : List Call} {s s' : Sys} {e : Event} (h : step calls s e = some s') :
    (e = .close ∧ s' = { s with db := s.db.close }) ∨ ∃ i, e = .go i ∧
      ((∃ id v, calls[i]? = some (.set id v) ∧ s' = (s.write i id v).move i (.done none)) ∨
       (∃ id, calls[i]? = some (.add id) ∧ s.pcs i = .start ∧
          s' = s.move i (.afterGet (get s.db id) s.commits.length)) ∨
       (∃ id r n, calls[i]? = some (.add id) ∧ s.pcs i = .afterGet r n ∧
          s' = (s.writeOpt i id (addAfterGet id r).2).move i (.done (some (addAfterGet id r).1)))) := by
  cases e with
  | close => exact .inl ⟨rfl, (Option.some.inj h).symm⟩
  | go i =>
    refine .inr ⟨i, rfl, ?_⟩
    simp only [step] at h
    split at h <;> simp only [Option.some.injEq, reduceCtorEq] at h <;> subst h <;> rename_i hc hp
    · exact .inl ⟨_, _, hc, rfl⟩
    · exact .inr (.inl ⟨_, hc, hp, rfl⟩)
    · exact .inr (.inr ⟨_, _, _, hc, hp, rfl⟩)

def Unseen (calls : List Call) (s : Sys) : Prop :=
  ∀ i id n, calls[i]? = some (.add id) → s.pcs i = .afterGet (.error .keyNotFound) n →
    n ≤ s.commits.length ∧ (s.db.records id = none ∨ ∃ j, j ≠ i ∧ (j, id) ∈ s.commits.drop n)

theorem unseen_init (calls : List Call) (db : Db) : Unseen calls (Sys.init db) := by
  intro i id n _ h
  cases h

theorem unseen_write {calls : List Call} {s : Sys} (hs : Unseen calls s) {i j : Nat}
    {id : String} {n : Nat} (id' : String) (v : RegistryValues) (hij : j ≠ i)
    (hc : calls[i]? = some (.add id)) (hp : s.pcs i = .afterGet (.error .keyNotFound) n) :
    n ≤ (s.write j id' v).commits.length ∧ ((s.write j id' v).db.records id = none ∨
      ∃ k, k ≠ i ∧ (k, id) ∈ (s.write j id' v).commits.drop n) := by
  obtain ⟨hn, hu⟩ := hs i id n hc hp
  rcases write_cases s j id' v with h | ⟨hr, hcm⟩
  · rw [h]; exact ⟨hn, hu⟩
  · rw [hr, hcm, List.drop_append_of_le_length hn, List.length_append]
    refine ⟨by omega, ?_⟩
    by_cases hid : id = id'
    · subst hid
      exact .inr ⟨j, hij, by simp⟩
    · rw [Function.update_noteq hid]
      rcases hu with h | ⟨k, hk, hm⟩
      · exact .inl h
      · exact .inr ⟨k, hk, List.mem_append_left _ hm⟩

theorem unseen_step {calls : List Call} {s s' : Sys} {e : Event} (hs : Unseen calls s)
    (h : step calls s e = some s') : Unseen calls s' := by
  intro i id n hc hp
  rcases step_cases h with ⟨rfl, rfl⟩ | ⟨j, rfl, hj⟩
  · exact hs i id n hc hp
  by_cases hij : j = i
  · subst hij
    rcases hj with ⟨id', v, hc', rfl⟩ | ⟨id', hc', -, rfl⟩ | ⟨id', r, m, hc', -, rfl⟩
    · simp [hc] at hc'
    · rw [hc, Option.some.injEq, Call.add.injEq] at hc'
      subst hc'
      simp only [move_pcs_self, Pc.afterGet.injEq] at hp
      unfold Registry.get at hp
      split at hp <;> (try split at hp) <;> simp_all
    · simp at hp
  · rcases hj with ⟨id', v, -, rfl⟩ | ⟨id', -, -, rfl⟩ | ⟨id', r, m, -, -, rfl⟩
    · rw [move_pcs_ne _ _ (Ne.symm hij), write_pcs] at hp
      exact unseen_write hs id' v hij hc hp
    · rw [move_pcs_ne _ _ (Ne.symm hij)] at hp
      exact hs i id n hc hp
    · rw [move_pcs_ne _ _ (Ne.symm hij), writeOpt_pcs] at hp
      rcases writeOpt_cases s j id' (addAfterGet id' r).2 with h | ⟨v, h⟩ <;> rw [h]
      · exact hs i id n hc hp
      · exact unseen_write hs id' v hij hc hp

theorem unseen_run {calls : List Call} {s s' : Sys} {es : List Event} (hs : Unseen calls s)
    (h : run calls s es = some s') : Unseen calls s' := by
  induction es generalizing s with
  | nil => cases h; exact hs
  | cons e es ih =>
    simp only [run, Option.bind_eq_some] at h
    obtain ⟨t, ht, hr⟩ := h
    exact ih (unseen_step hs ht) hr

/-- With no write to `id` by another goroutine since its `Get`, the `Set` of a
paused `Add` inserts the defaults into an absent key and returns them: `Add` is
then `insertIfAbsent`, taking effect at its `Set`. -/
theorem add_linearizes {calls : List Call} {db : Db} {es : List Event} {s : Sys} {i n : Nat}
    {id : String} (h : run calls (Sys.init db) es = some s) (hc : calls[i]? = some (.add id))
    (hp : s.pcs i = .afterGet (.error .keyNotFound) n) (ho : s.db.closed = false)
    (hq : ∀ j, (j, id) ∈ s.commits.drop n → j = i) :
    ∃ s', step calls s (.go i) = some s' ∧ s'.pcs i = .done (some (newRegistryEntry id)) ∧
      s'.db.records = (insertIfAbsent s.db.records id).2 ∧
      (insertIfAbsent s.db.records id).1 = newRegistryValues := by
  have hn : s.db.records id = none := by
    rcases ((unseen_run (unseen_init calls db) h) i id n hc hp).2 with h | ⟨j, hj, hm⟩
    · exact h
    · exact absurd (hq j hm) hj
  refine ⟨_, by simp only [step, hc, hp]; rfl, by simp [addAfterGet], ?_⟩
  simp [insertIfAbsent, hn, addAfterGet, Sys.writeOpt, Sys.write, Registry.set, ho]

def writersCalls : List Call := [.set "mem" ⟨true, false⟩, .add "cpu", .set "disk" ⟨false, true⟩]

def interleavedAdd : Sys :=
  ⟨⟨Function.update (Function.update (fun _ => none) "mem" (some ⟨true, false⟩)) "disk" (some ⟨false, true⟩),
      false⟩,
    Function.update (Function.update (Function.update (fun _ => .start) 0 (.done none)) 1
      (.afterGet (.error .keyNotFound) 1)) 2 (.done none),
    [(0, "mem"), (2, "disk")]⟩

theorem add_linearizes_between_writers :
    run writersCalls (Sys.init Db.empty) [.go 0, .go 1, .go 2] = some interleavedAdd ∧
    ∃ s', step writersCalls interleavedAdd (.go 1) = some s' ∧
      s'.pcs 1 = .done (some (newRegistryEntry "cpu")) ∧
      s'.db.records = (insertIfAbsent interleavedAdd.db.records "cpu").2 ∧
      (insertIfAbsent interleavedAdd.db.records "cpu").1 = newRegistryValues :=
  ⟨rfl, add_linearizes (show run writersCalls (Sys.init Db.empty) [.go 0, .go 1, .go 2] = some interleavedAdd
    from rfl) rfl rfl rfl (fun j hj => by simp [interleavedAdd] at hj)⟩

def raceCalls : List Call := [.add "cpu", .set "cpu" ⟨true, false⟩]

/-- `Add` runs its `Get`, a `Set` marking the sensor registered commits, and
`Add` then stores the defaults over it. Neither order of the two calls run one
after the other ends that way. -/
theorem add_overwrites_committed_set :
    (run raceCalls (Sys.init Db.empty) [.go 0, .go 1, .go 0]).map
        (fun s => (s.db.records "cpu", s.commits, s.pcs 0)) =
      some (some newRegistryValues, [(1, "cpu"), (0, "cpu")], .done (some (newRegistryEntry "cpu"))) ∧
    (run raceCalls (Sys.init Db.empty) [.go 0, .go 0, .go 1]).map (·.db.records "cpu") =
      some (some ⟨true, false⟩) ∧
    (run raceCalls (Sys.init Db.empty) [.go 1, .go 0, .go 0]).map (·.db.records "cpu") =
      some (some ⟨true, false⟩) := by
  decide

end HassAgent.RegistryRace
