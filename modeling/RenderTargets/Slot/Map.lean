/-!
# Slot maps

A store that hands out a handle for every value it takes. A handle names a slot and the **version**
of the slot at the time; a slot's version changes when its value leaves, so the handle of a removed
value never finds the value that follows it in the slot.

## Versions

An odd version belongs to a value that is there, an even one to an empty slot. Taking a value out
adds one to the version, putting one in makes it odd again. Handles are odd by construction
(`Handle.ofParts`), so a handle that fits the version of its slot fits a value.

## Which slot is used next

Empty slots are used again last in, first out; a new slot follows the last one. Slots are numbered
from one, and the last word is no number of a slot: a store that would need it is **full**.

## What every store keeps to

`Kept` is part of the type: the list of empty slots is right, versions are odd exactly where there
is a value, and there are no more slots than numbers for them.
-/

namespace RenderTargets.Slot

/-- A name for a value in a store that is told apart by `tag`. -/
structure Handle {κ : Type} (tag : κ) where
  /-- Number of the slot, from one. -/
  index : UInt32
  /-- Version of the slot. -/
  version : UInt32
  deriving DecidableEq, Inhabited, Repr

namespace Handle

variable {κ : Type} {tag : κ}

/-- The handle of a slot number and a version, which is made odd. -/
def ofParts (index version : UInt32) : Handle tag := ⟨index, version ||| 1⟩

/-- The handle of no slot. -/
def null : Handle tag := ⟨0xffffffff, 1⟩

/-- Slot and version as text, such as `3v1`. -/
def parts (h : Handle tag) : String := s!"{h.index.toNat}v{h.version.toNat}"

/-- The handle as it stands in messages: the null handle has a name of its own. -/
def text (h : Handle tag) : String := if h.index = 0xffffffff then "null" else h.parts

end Handle

/-- One place for a value. -/
structure Cell (α : Type) where
  /-- Odd if and only if there is a value. -/
  version : UInt32
  /-- The value. -/
  value : Option α
  deriving Repr

/-- The most slots that a store has. -/
def capacity : Nat := 0xfffffffe

/-- What the slots of a store and its list of empty ones keep to. -/
structure Kept {α : Type} (cells : List (Cell α)) (free : List Nat) : Prop where
  /-- No empty slot is listed twice. -/
  nodup : free.Nodup
  /-- The empty slots are listed, and no others. -/
  mem_free_iff : ∀ i, i ∈ free ↔ ∃ c : Cell α, cells[i]? = some c ∧ c.value = none
  /-- Versions are odd where there is a value. -/
  odd_iff : ∀ (i : Nat) (c : Cell α), cells[i]? = some c →
    (c.version.toNat % 2 = 1 ↔ c.value.isSome)
  /-- Every slot has a number. -/
  length_le : cells.length ≤ capacity

namespace Kept

variable {α : Type} {cells : List (Cell α)} {free : List Nat}

/-- A store may start without slots. -/
theorem empty : Kept ([] : List (Cell α)) [] where
  nodup := .nil
  mem_free_iff := by simp
  odd_iff := by simp
  length_le := by simp [capacity]

/-- Making a word odd makes it odd. -/
theorem odd_or_one (v : UInt32) : (v ||| 1).toNat % 2 = 1 := by
  have h : (v ||| 1).toNat.testBit 0 = true := by
    rw [UInt32.toNat_or, Nat.testBit_or]
    simp
  exact of_decide_eq_true (Nat.testBit_zero _ ▸ h)

/-- The successor of an odd word is even, also where it starts over. -/
theorem even_of_odd {v : UInt32} (h : v.toNat % 2 = 1) : (v + 1).toNat % 2 = 0 := by
  rw [UInt32.toNat_add]
  have : (1 : UInt32).toNat = 1 := rfl
  omega

/-- A new slot with a value may follow the others while there is a number for it. -/
theorem push (h : Kept cells []) (a : α) (hn : cells.length < capacity) :
    Kept (cells ++ [⟨1, some a⟩]) [] where
  nodup := .nil
  mem_free_iff i := by
    refine ⟨fun hi ↦ absurd hi (by simp), ?_⟩
    rintro ⟨c, hc, hv⟩
    rw [List.getElem?_append] at hc
    split at hc
    · exact (h.mem_free_iff i).2 ⟨c, hc, hv⟩
    · rw [List.mem_singleton.1 (List.mem_of_getElem? hc)] at hv
      simp at hv
  odd_iff i c hc := by
    rw [List.getElem?_append] at hc
    split at hc
    · exact h.odd_iff i c hc
    · rw [List.mem_singleton.1 (List.mem_of_getElem? hc)]
      simp
  length_le := by simp; omega

/-- A value may be put into the empty slot listed first. -/
theorem fill {i : Nat} {rest : List Nat} (h : Kept cells (i :: rest)) (v : UInt32) (a : α) :
    Kept (cells.set i ⟨v ||| 1, some a⟩) rest where
  nodup := (List.nodup_cons.1 h.nodup).2
  mem_free_iff j := by
    have hnot := (List.nodup_cons.1 h.nodup).1
    rw [List.getElem?_set]
    by_cases hij : i = j
    · subst hij
      refine ⟨fun hj ↦ absurd hj hnot, ?_⟩
      rintro ⟨c, hc, hv⟩
      rw [if_pos rfl] at hc
      split at hc <;> simp at hc
      rw [← hc] at hv
      simp at hv
    · rw [if_neg hij, ← h.mem_free_iff j, List.mem_cons]
      exact ⟨.inr, fun hj ↦ hj.resolve_left (Ne.symm hij)⟩
  odd_iff j c hc := by
    rw [List.getElem?_set] at hc
    split at hc
    · split at hc <;> simp at hc
      rw [← hc]
      exact iff_of_true (odd_or_one v) rfl
    · exact h.odd_iff j c hc
  length_le := by simpa using h.length_le

/-- The value of a slot may be taken out. -/
theorem vacate {i : Nat} {c : Cell α} (h : Kept cells free) (hc : cells[i]? = some c)
    (hv : c.value.isSome) : Kept (cells.set i ⟨c.version + 1, none⟩) (i :: free) where
  nodup := by
    refine List.nodup_cons.2 ⟨fun hi ↦ ?_, h.nodup⟩
    obtain ⟨c', hc', hv'⟩ := (h.mem_free_iff i).1 hi
    rw [hc] at hc'
    cases hc'
    simp [hv'] at hv
  mem_free_iff j := by
    have hlt : i < cells.length := (List.getElem?_eq_some_iff.1 hc).1
    rw [List.getElem?_set, List.mem_cons]
    by_cases hij : i = j
    · subst hij
      simp [hlt]
    · rw [if_neg hij, h.mem_free_iff j]
      exact ⟨fun hj ↦ hj.resolve_left (Ne.symm hij), .inr⟩
  odd_iff j d hd := by
    rw [List.getElem?_set] at hd
    split at hd
    · split at hd <;> simp at hd
      rw [← hd]
      have heven := even_of_odd ((h.odd_iff i c hc).2 hv)
      exact iff_of_false (show ¬(c.version + 1).toNat % 2 = 1 by omega) (by simp)
    · exact h.odd_iff j d hd
  length_le := by simpa using h.length_le

/-- The value of a slot may be changed. -/
theorem change {i : Nat} {c : Cell α} (h : Kept cells free) (hc : cells[i]? = some c)
    (hv : c.value.isSome) (a : α) : Kept (cells.set i ⟨c.version, some a⟩) free where
  nodup := h.nodup
  mem_free_iff j := by
    have hlt : i < cells.length := (List.getElem?_eq_some_iff.1 hc).1
    rw [List.getElem?_set, h.mem_free_iff j]
    by_cases hij : i = j
    · subst hij
      rw [hc]
      simp [hlt, Option.isSome_iff_ne_none.1 hv]
    · rw [if_neg hij]
  odd_iff j d hd := by
    rw [List.getElem?_set] at hd
    split at hd
    · split at hd <;> simp at hd
      rw [← hd]
      simpa [hv] using h.odd_iff i c hc
    · exact h.odd_iff j d hd
  length_le := by simpa using h.length_le

end Kept

/-- A store of values of type `α` with handles marked by `tag`. -/
structure Map {κ : Type} (tag : κ) (α : Type) where
  /-- The slots from number one on. -/
  cells : List (Cell α) := []
  /-- Positions of the empty slots, the next one to use first. -/
  free : List Nat := []
  /-- Both keep to the rules. -/
  kept : Kept cells free := by exact RenderTargets.Slot.Kept.empty
  deriving Repr

namespace Map

variable {κ α : Type} {tag : κ}

/-- The store without values. -/
def empty : Map tag α := {}

instance : Inhabited (Map tag α) := ⟨empty⟩

/-- The cell that a handle fits. -/
def cell? (m : Map tag α) (h : Handle tag) : Option (Cell α) :=
  if h.index = 0 then none
  else (m.cells[h.index.toNat - 1]?).filter (·.version = h.version)

/-- The value of a handle, if it is alive. -/
def get? (m : Map tag α) (h : Handle tag) : Option α := (m.cell? h).bind (·.value)

/-- The handle is alive. -/
def contains (m : Map tag α) (h : Handle tag) : Bool := (m.get? h).isSome

/-- Puts a value in and answers its handle, unless the store is full. -/
def insert? (m : Map tag α) (a : α) : Option (Handle tag × Map tag α) :=
  match hf : m.free with
  | [] =>
    if hn : m.cells.length < capacity then
      some (⟨UInt32.ofNat (m.cells.length + 1), 1⟩,
        ⟨m.cells ++ [⟨1, some a⟩], [], Kept.push (hf ▸ m.kept) a hn⟩)
    else none
  | i :: rest =>
    let version := m.cells[i]?.elim 0 (·.version)
    some (⟨UInt32.ofNat (i + 1), version ||| 1⟩,
      ⟨m.cells.set i ⟨version ||| 1, some a⟩, rest, Kept.fill (hf ▸ m.kept) version a⟩)

/-- A handle that finds a value fits its cell. -/
theorem cell?_of_get? {m : Map tag α} {h : Handle tag} {a : α} (ha : m.get? h = some a) :
    ∃ c, m.cells[h.index.toNat - 1]? = some c ∧ c.version = h.version ∧ c.value = some a := by
  obtain ⟨c, hc, hv⟩ := Option.bind_eq_some_iff.1 ha
  rw [cell?] at hc
  split at hc
  · simp at hc
  · obtain ⟨hc, hver⟩ := Option.filter_eq_some_iff.1 hc
    exact ⟨c, hc, by simpa using hver, hv⟩

/-- What is left after the value of a live handle was taken out. -/
def vacated (m : Map tag α) (h : Handle tag) (a : α) (ha : m.get? h = some a) : Map tag α where
  cells := m.cells.set (h.index.toNat - 1) ⟨h.version + 1, none⟩
  free := (h.index.toNat - 1) :: m.free
  kept := by
    obtain ⟨c, hc, hver, hv⟩ := cell?_of_get? ha
    exact hver ▸ m.kept.vacate hc (by simp [hv])

/-- Takes the value of a handle out, if it is alive. -/
def remove (m : Map tag α) (h : Handle tag) : Option (α × Map tag α) :=
  match ha : m.get? h with
  | some a => some (a, m.vacated h a ha)
  | none => none

/-- Changes the value of a handle, if it is alive. -/
def modify (m : Map tag α) (h : Handle tag) (f : α → α) : Map tag α :=
  match ha : m.get? h with
  | some a =>
    { m with
      cells := m.cells.set (h.index.toNat - 1) ⟨h.version, some (f a)⟩
      kept := by
        obtain ⟨c, hc, hver, hv⟩ := cell?_of_get? ha
        exact hver ▸ m.kept.change hc (by simp [hv]) (f a) }
  | none => m

/-- The live handles with their values, in the order of the slots. -/
def toList (m : Map tag α) : List (Handle tag × α) :=
  (m.cells.zipIdx 1).filterMap fun (c, i) ↦
    c.value.map fun a ↦ (⟨UInt32.ofNat i, c.version⟩, a)

/-- The values in the order of the slots. -/
def values (m : Map tag α) : List α := m.cells.filterMap (·.value)

/-- How many values there are. -/
def size (m : Map tag α) : Nat := m.values.length

end Map

end RenderTargets.Slot
