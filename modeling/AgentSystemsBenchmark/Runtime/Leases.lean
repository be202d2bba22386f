import Mathlib

/-!
# CPU leases of one directory

A lease takes one file for each of its CPUs, one after the other, and gives back those it has got
when it meets a file that exists. Any number of acquirers do so at once. Creating a file that does
not exist is one step; whatever else an acquirer does is its own.
-/

namespace AgentSystemsBenchmark.Leases

open List Function

/-- Where an acquisition or its lease stands, with the files it has made, the latest first. -/
inductive Progress where
  | acquiring (rest files : List Nat)
  /-- The file was created, and the class is written to it. -/
  | writing (cpu : Nat) (rest files : List Nat)
  | held (files : List Nat)
  /-- `rollback`, after a failure or of a lease that is dropped. -/
  | unwinding (failed : Bool) (files : List Nat)
  | ended (failed : Bool)
  deriving DecidableEq, Repr

def Progress.files : Progress → List Nat
  | acquiring _ files | held files | unwinding _ files => files
  | writing cpu _ files => cpu :: files
  | ended _ => []

/-- A call that makes or writes a file, or removes one, and whether it succeeds, or the drop of a
lease; one that is quarantined is never dropped here. -/
inductive Act where
  | call (ok : Bool)
  | remove (ok : Bool)
  | drop
  deriving DecidableEq, Repr

/-- What a step does to the directory. The last is a removal that fails, which is ignored. -/
inductive Effect where
  | none
  | creates (cpu : Nat)
  | removes (cpu : Nat)
  | leaves (cpu : Nat)
  deriving DecidableEq, Repr

def Progress.next (present : Finset Nat) : Act → Progress → Progress × Effect
  | .call _, acquiring [] files => (held files, .none)
  | .call ok, acquiring (cpu :: rest) files =>
    if cpu ∈ present ∨ ok = false then (unwinding true files, .none)
    else (writing cpu rest files, .creates cpu)
  | .call true, writing cpu rest files => (acquiring rest (cpu :: files), .none)
  | .call false, writing cpu _ files => (unwinding true (cpu :: files), .none)
  | .call _, unwinding failed [] => (ended failed, .none)
  | .remove ok, unwinding failed (cpu :: files) =>
    (unwinding failed files, if ok then .removes cpu else .leaves cpu)
  | .drop, held files => (unwinding false files, .none)
  | _, progress => (progress, .none)

def Effect.apply (present : Finset Nat) : Effect → Finset Nat
  | creates cpu => insert cpu present
  | removes cpu => present.erase cpu
  | none | leaves _ => present

structure Directory (ι : Type) where
  files : Finset Nat
  lease : ι → Progress

open Directory

section Steps
variable {ι : Type} [DecidableEq ι]

def Directory.step (s : Directory ι) (e : ι × Act) : Directory ι :=
  let (progress, effect) := (s.lease e.1).next s.files e.2
  ⟨effect.apply s.files, update s.lease e.1 progress⟩

/-- Nobody has taken a step yet; files of earlier runs may be there. -/
def Directory.start (stale : Finset Nat) (cpus : ι → List Nat) : Directory ι :=
  ⟨stale, fun i => .acquiring (cpus i) []⟩

def Directory.after (stale : Finset Nat) (cpus : ι → List Nat) (events : List (ι × Act)) :
    Directory ι :=
  events.foldl step (start stale cpus)

end Steps

/-- How far an acquisition of these CPUs has come. -/
def Progress.Follows (cpus : List Nat) : Progress → Prop
  | acquiring rest files => files.reverse ++ rest = cpus
  | writing cpu rest files => files.reverse ++ cpu :: rest = cpus
  | held files => files.reverse = cpus
  | unwinding _ _ | ended _ => True

/-- A step keeps the files of its acquirer, adds a new one, or gives one up. -/
def Effect.Accounts (present : Finset Nat) (own own' : List Nat) : Effect → Prop
  | none => own' = own
  | creates cpu => cpu ∉ present ∧ own' = cpu :: own
  | removes cpu | leaves cpu => own = cpu :: own'

theorem Progress.next_accounts (present : Finset Nat) (act : Act) (p : Progress) :
    (p.next present act).2.Accounts present p.files (p.next present act).1.files ∧
      (∀ cpus, p.Follows cpus → (p.next present act).1.Follows cpus) ∧
      ((∃ cpu, (p.next present act).2 = .leaves cpu) → act = .remove false) := by
  unfold Progress.next
  split
  case h_1 | h_3 => exact ⟨rfl, fun _ h => by simpa [Follows] using h, nofun⟩
  case h_2 =>
    split
    case isTrue => exact ⟨rfl, fun _ _ => trivial, nofun⟩
    case isFalse free => exact ⟨⟨(not_or.mp free).1, rfl⟩, fun _ h => h, nofun⟩
  case h_6 ok _ _ _ =>
    cases ok with
    | true => exact ⟨rfl, fun _ _ => trivial, nofun⟩
    | false => exact ⟨rfl, fun _ _ => trivial, fun _ => rfl⟩
  case h_8 => exact ⟨rfl, fun _ h => h, nofun⟩
  all_goals exact ⟨rfl, fun _ _ => trivial, nofun⟩

section Ownership
variable {ι : Type} [DecidableEq ι] {own : ι → List Nat} {present : Finset Nat} {i : ι}
  {files : List Nat} {effect : Effect}

/-- Each file that is owned is there, and has one owner. -/
structure Owned (own : ι → List Nat) (present : Finset Nat) : Prop where
  nodup : ∀ i, (own i).Nodup
  there : ∀ i, ∀ cpu ∈ own i, cpu ∈ present
  apart : ∀ i j, ∀ cpu ∈ own i, cpu ∈ own j → i = j

theorem Owned.accounts (owned : Owned own present)
    (accounts : effect.Accounts present (own i) files) :
    Owned (update own i files) (effect.apply present) := by
  obtain ⟨nodup, there, apart⟩ := owned
  cases effect with
  | none =>
    obtain rfl : files = own i := accounts
    rw [update_eq_self]
    exact ⟨nodup, there, apart⟩
  | creates cpu =>
    obtain ⟨free, rfl⟩ := accounts
    have unowned : ∀ j, cpu ∉ own j := fun j member => free (there j cpu member)
    constructor
    all_goals
      simp only [update_apply, Effect.apply, Finset.mem_insert]
      grind
  | removes cpu | leaves cpu =>
    have split : own i = cpu :: files := accounts
    have first : cpu ∉ files := (nodup_cons.mp (split ▸ nodup i)).1
    constructor
    all_goals
      simp only [update_apply, Effect.apply, Finset.mem_erase]
      grind

/-- While removals succeed, each file was there before or has an owner. -/
theorem accounts_covered {stale : Finset Nat} (accounts : effect.Accounts present (own i) files)
    (clean : ∀ cpu, effect ≠ .leaves cpu)
    (covered : ∀ cpu ∈ present, cpu ∈ stale ∨ ∃ j, cpu ∈ own j) :
    ∀ cpu ∈ effect.apply present, cpu ∈ stale ∨ ∃ j, cpu ∈ update own i files j := by
  intro cpu member
  cases effect with
  | none =>
    obtain rfl : files = own i := accounts
    rw [update_eq_self]
    exact covered cpu member
  | creates new =>
    obtain ⟨-, rfl⟩ := accounts
    rcases Finset.mem_insert.mp member with rfl | member
    · exact .inr ⟨i, by rw [update_self]; exact mem_cons_self⟩
    · refine (covered cpu member).imp_right fun ⟨j, mine⟩ => ⟨j, ?_⟩
      grind [update_apply]
  | removes old =>
    obtain ⟨other, member⟩ := Finset.mem_erase.mp member
    have split : own i = old :: files := accounts
    refine (covered cpu member).imp_right fun ⟨j, mine⟩ => ⟨j, ?_⟩
    grind [update_apply]
  | leaves old => exact absurd rfl (clean old)

end Ownership

section Exclusion
variable {ι : Type} [DecidableEq ι] {stale : Finset Nat} {cpus : ι → List Nat} {s : Directory ι}

def Directory.own (s : Directory ι) (i : ι) : List Nat := (s.lease i).files

theorem Directory.own_step (s : Directory ι) (e : ι × Act) : (s.step e).own =
    update s.own e.1 ((s.lease e.1).next s.files e.2).1.files := by
  funext i
  simp only [own, step, update_apply]
  split <;> rfl

/-- The invariant of a run in which removals fail or, if it is tidy, do not. -/
structure Directory.Sound (stale : Finset Nat) (cpus : ι → List Nat) (tidy : Prop)
    (s : Directory ι) :
    Prop where
  follows : ∀ i, (s.lease i).Follows (cpus i)
  owned : Owned s.own s.files
  covered : tidy → ∀ cpu ∈ s.files, cpu ∈ stale ∨ ∃ i, cpu ∈ s.own i

theorem Directory.Sound.step {tidy : Prop} {e : ι × Act} (sound : s.Sound stale cpus tidy)
    (removes : tidy → e.2 ≠ .remove false) : (s.step e).Sound stale cpus tidy := by
  obtain ⟨accounts, follows, leaves⟩ := (s.lease e.1).next_accounts s.files e.2
  refine ⟨fun i => ?_, by rw [own_step]; exact sound.owned.accounts accounts, fun tidy => ?_⟩
  · simp only [Directory.step, update_apply]
    split
    case isTrue here => exact here ▸ follows _ (sound.follows e.1)
    case isFalse => exact sound.follows i
  · rw [own_step]
    exact accounts_covered accounts (fun cpu left => removes tidy (leaves ⟨cpu, left⟩))
      (sound.covered tidy)

theorem Directory.after_sound (stale : Finset Nat) (cpus : ι → List Nat) (events : List (ι × Act)) :
    (after stale cpus events).Sound stale cpus (∀ e ∈ events, e.2 ≠ .remove false) :=
  events.foldlRecOn step ⟨fun _ => rfl, ⟨fun _ => nodup_nil, fun _ _ => nofun, fun _ _ _ => nofun⟩,
    fun _ _ => .inl⟩ fun _ sound e member => sound.step fun tidy => tidy e member

/-- Two held leases share no CPU. If no removal fails, every file is as old as the run or has an
owner, so that a failed acquisition leaves none. -/
theorem leases_exclusive {events : List (ι × Act)} (run : after stale cpus events = s) :
    (∀ i j files files' cpu, s.lease i = .held files → s.lease j = .held files' →
      cpu ∈ cpus i → cpu ∈ cpus j → i = j) ∧
    ((∀ e ∈ events, e.2 ≠ .remove false) → ∀ i, s.lease i = .ended true →
      ∀ cpu ∈ s.files, cpu ∈ stale ∨ ∃ j, j ≠ i ∧ cpu ∈ s.own j) := by
  have sound := run ▸ after_sound stale cpus events
  constructor
  · have mine : ∀ i files cpu, s.lease i = .held files → cpu ∈ cpus i → cpu ∈ s.own i := by
      intro i files cpu held member
      have whole := sound.follows i
      rw [held] at whole
      rw [own, held]
      exact mem_reverse.mp (whole.symm ▸ member)
    intro i j files files' cpu first second one other
    exact sound.owned.apart i j cpu (mine i files cpu first one) (mine j files' cpu second other)
  · intro tidy i ended cpu member
    refine (sound.covered tidy cpu member).imp_right fun ⟨j, mine⟩ => ⟨j, ?_, mine⟩
    rintro rfl
    rw [own, ended] at mine
    cases mine

end Exclusion

/-- The CPUs of two acquirers, who meet at CPU 1. -/
def sampleCpus : Bool → List Nat
  | false => [0, 1]
  | true => [1]

/-- The second has CPU 1; the first meets it and gives CPU 0 back. -/
def sampleMeeting (removed : Bool) : List (Bool × Act) :=
  [(false, .call true), (true, .call true), (false, .call true), (true, .call true),
    (false, .call true), (false, .remove removed), (false, .call true)]

theorem leases_exclusive_sample :
    (after ∅ sampleCpus (sampleMeeting true)).files = {1} ∧
      ∀ cpu ∈ (after ∅ sampleCpus (sampleMeeting true)).files, cpu ∈ (∅ : Finset Nat) ∨
        ∃ j, j ≠ false ∧ cpu ∈ (after ∅ sampleCpus (sampleMeeting true)).own j :=
  ⟨by decide, (leases_exclusive rfl).2 (by decide) false (by decide)⟩

/-- The removal of CPU 0 fails, and nobody owns its file. -/
theorem not_leases_exclusive :
    (after ∅ sampleCpus (sampleMeeting false)).lease false = .ended true ∧
      0 ∈ (after ∅ sampleCpus (sampleMeeting false)).files ∧
      ∀ j, 0 ∉ (after ∅ sampleCpus (sampleMeeting false)).own j := by
  decide

end AgentSystemsBenchmark.Leases
