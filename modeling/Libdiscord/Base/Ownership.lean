import Mathlib.Data.List.Infix
import Mathlib.Data.List.Count

/-! Counted references.

A program that handles counted values is given references to them and gives references up. A
reference that is only borrowed has no entry; giving it up has.
-/

set_option autoImplicit false

namespace Libdiscord.Base

inductive Entry (Ref : Type) where
  | owned (ref : Ref)
  | given (ref : Ref)
  deriving DecidableEq

def Entry.ref {Ref : Type} : Entry Ref → Ref
  | .owned ref | .given ref => ref

section
variable {Ref : Type} {P : Ref → Prop}

def GivesOnly (P : Ref → Prop) (ledger : List (Entry Ref)) : Prop := ∀ ref, .given ref ∈ ledger → P ref

theorem GivesOnly.mono {Q : Ref → Prop} {ledger : List (Entry Ref)} (gives : GivesOnly P ledger)
    (weaker : ∀ ref, P ref → Q ref) : GivesOnly Q ledger :=
  fun ref given => weaker ref (gives ref given)

@[simp] theorem givesOnly_nil : GivesOnly P [] := nofun

@[simp] theorem givesOnly_owned (ref : Ref) (ledger : List (Entry Ref)) :
    GivesOnly P (.owned ref :: ledger) ↔ GivesOnly P ledger := by
  simp [GivesOnly]

@[simp] theorem givesOnly_given (ref : Ref) (ledger : List (Entry Ref)) :
    GivesOnly P (.given ref :: ledger) ↔ P ref ∧ GivesOnly P ledger := by
  simp [GivesOnly]

@[simp] theorem givesOnly_append (ledger more : List (Entry Ref)) :
    GivesOnly P (ledger ++ more) ↔ GivesOnly P ledger ∧ GivesOnly P more := by
  simp only [GivesOnly, List.mem_append]
  exact ⟨fun all => ⟨fun ref given => all ref (.inl given), fun ref given => all ref (.inr given)⟩,
    fun both ref given => given.elim (both.1 ref) (both.2 ref)⟩

@[simp] theorem givesOnly_flatMap {Index : Type} (indices : List Index)
    (part : Index → List (Entry Ref)) :
    GivesOnly P (indices.flatMap part) ↔ ∀ i ∈ indices, GivesOnly P (part i) := by
  simp only [GivesOnly, List.mem_flatMap]
  exact ⟨fun all i member ref given => all ref ⟨i, member, given⟩,
    fun each ref ⟨i, member, given⟩ => each i member ref given⟩

end

section
variable {Ref : Type} [DecidableEq Ref]

/-- Of every value as many references are given up as are owned. -/
def Balanced (ledger : List (Entry Ref)) : Prop :=
  ∀ ref, ledger.count (.given ref) = ledger.count (.owned ref)

theorem balanced_nil : Balanced ([] : List (Entry Ref)) := fun _ => rfl

theorem not_balanced_of_kept {ledger : List (Entry Ref)} {ref : Ref} (owned : .owned ref ∈ ledger)
    (kept : .given ref ∉ ledger) : ¬Balanced ledger := by
  intro balanced
  have count := balanced ref
  rw [List.count_eq_zero.mpr kept] at count
  exact List.count_eq_zero.mp count.symm owned

theorem not_balanced_of_borrowed {ledger : List (Entry Ref)} {ref : Ref} (given : .given ref ∈ ledger)
    (borrowed : .owned ref ∉ ledger) : ¬Balanced ledger := by
  intro balanced
  have count := balanced ref
  rw [List.count_eq_zero.mpr borrowed] at count
  exact List.count_eq_zero.mp count given

/-- At no time have more references to a value been given up than are owned. -/
def Backed (ledger : List (Entry Ref)) : Prop :=
  ∀ before ∈ ledger.inits, ∀ ref ∈ ledger.map Entry.ref, before.count (.given ref) ≤ before.count (.owned ref)

instance (ledger : List (Entry Ref)) : Decidable (Backed ledger) :=
  inferInstanceAs (Decidable (∀ _ ∈ _, ∀ _ ∈ _, _ ≤ _))

variable {ledger more : List (Entry Ref)} {ref : Ref}

theorem backed_iff : Backed ledger ↔
    ∀ before, before <+: ledger → ∀ ref, before.count (.given ref) ≤ before.count (.owned ref) := by
  constructor
  · intro backed before start ref
    by_cases member : ref ∈ ledger.map Entry.ref
    · exact backed before (List.mem_inits _ _ |>.mpr start) ref member
    · have absent : .given ref ∉ before := fun given =>
        member (List.mem_map.mpr ⟨.given ref, start.subset given, rfl⟩)
      rw [List.count_eq_zero.mpr absent]
      exact Nat.zero_le _
  · exact fun all before member ref _ => all before (List.mem_inits _ _ |>.mp member) ref

theorem Backed.append (first : Backed ledger) (second : Backed more) : Backed (ledger ++ more) := by
  rw [backed_iff] at first second ⊢
  rintro before ⟨behind, whole⟩ ref
  rcases List.append_eq_append_iff.mp whole with ⟨rest, early, _⟩ | ⟨rest, rfl, begun⟩
  · exact first before ⟨rest, early.symm⟩ ref
  · have whole := first ledger List.prefix_rfl ref
    have later := second rest ⟨behind, begun.symm⟩ ref
    rw [List.count_append, List.count_append]
    omega

end

end Libdiscord.Base
