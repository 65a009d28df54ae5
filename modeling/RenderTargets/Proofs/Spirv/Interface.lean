import Mathlib.Data.List.Sort
import RenderTargets.Spirv.Declarations
/-!
# The bindings of sampled images

Reflection may list the sampled images of an entry point in any order and in several sets, and two
of them may share a binding. What a stage takes is told by a list of bindings, which is sorted first
and then rid of repetitions. So it is **strictly ascending** (`pairwise_sampledBindings`), and has
the bindings of the images in the first set and no others (`mem_sampledBindings`).

All of that holds of any reflection. Of the one that reads modules here,
`mem_sampledBindings_points` says which variables of a module these images are, and `read_reflect`
that all entry points of a module take the same.
-/

namespace RenderTargets

section Lists

variable {α : Type} [BEq α] {a b : α} {l acc : List α}

/-- What is collected goes before the rest. -/
theorem eraseReps_loop :
    List.eraseRepsBy.loop (· == ·) a l acc = acc.reverse ++ (a :: l).eraseReps := by
  show _ = _ ++ List.eraseRepsBy.loop (· == ·) a l []
  induction l generalizing a acc with
  | nil => simp [List.eraseRepsBy.loop]
  | cons b l ih =>
    simp only [List.eraseRepsBy.loop]
    split
    · exact ih
    · rw [ih, @ih _ [a]]
      simp

variable [LawfulBEq α]

theorem eraseReps_cons_self : (a :: a :: l).eraseReps = (a :: l).eraseReps := by
  show List.eraseRepsBy.loop (· == ·) a (a :: l) [] = List.eraseRepsBy.loop (· == ·) a l []
  simp [List.eraseRepsBy.loop]

theorem eraseReps_cons_of_ne (h : a ≠ b) :
    (a :: b :: l).eraseReps = a :: (b :: l).eraseReps := by
  show List.eraseRepsBy.loop (· == ·) a (b :: l) [] = _
  have hab : (a == b) = false := by simpa using h
  simp only [List.eraseRepsBy.loop, hab, eraseReps_loop]
  rfl

/-- Only repetitions go away. -/
theorem mem_eraseReps : b ∈ l.eraseReps ↔ b ∈ l := by
  induction l with
  | nil => rfl
  | cons a l ih =>
    cases l with
    | nil => rfl
    | cons c l =>
      by_cases h : a = c
      · subst h
        rw [eraseReps_cons_self, ih]
        simp
      · rw [eraseReps_cons_of_ne h, List.mem_cons, ih, ← List.mem_cons]

/-- In a sorted list equal elements are neighbours, so none is left twice. -/
theorem pairwise_eraseReps {l : List UInt32} (h : l.Pairwise (· ≤ ·)) :
    l.eraseReps.Pairwise (· < ·) := by
  induction l with
  | nil => exact .nil
  | cons a l ih =>
    obtain ⟨hle, hl⟩ := List.pairwise_cons.1 h
    cases l with
    | nil => exact List.pairwise_singleton _ a
    | cons b l =>
      by_cases hab : a = b
      · subst hab
        rw [eraseReps_cons_self]
        exact ih hl
      · rw [eraseReps_cons_of_ne hab]
        refine List.pairwise_cons.2 ⟨fun c hc ↦ ?_, ih hl⟩
        have hlt : a < b := UInt32.lt_of_le_of_ne (hle b List.mem_cons_self) hab
        rcases List.mem_cons.1 (mem_eraseReps.1 hc) with rfl | hc
        · exact hlt
        · exact UInt32.lt_of_lt_of_le hlt ((List.pairwise_cons.1 hl).1 c hc)

end Lists

namespace Spirv

/-- A stage that asks for a name starts with the entry point: it is the first of that name, or the
first of all if none has the name. -/
inductive StartsWith (start : String) (e : EntryPoint) : List EntryPoint → Prop
  /-- It is the first of the name. -/
  | named {before after : List EntryPoint} (name : e.name = start)
      (first : ∀ p ∈ before, p.name ≠ start) : StartsWith start e (before ++ e :: after)
  /-- It stands in for a name that there is not. -/
  | unnamed {rest : List EntryPoint} (absent : ∀ p ∈ e :: rest, p.name ≠ start) :
    StartsWith start e (e :: rest)

namespace Interface

variable {e : EntryPoint} {r : Resource} {b : UInt32}

theorem bindingOf?_eq_some_iff : bindingOf? r = some b ↔
    r = .descriptor 0 b .combinedImageSampler ∨ r = .descriptor 0 b .sampledImage := by
  cases r with
  | pushConstant bytes => simp [bindingOf?]
  | descriptor set binding type =>
    cases type <;> simp [bindingOf?, DescriptorType.isSampled]
  | other => simp [bindingOf?]

theorem insertSorted_eq (b : UInt32) (l : List UInt32) :
    insertSorted b l = l.orderedInsert (· ≤ ·) b := by
  induction l with
  | nil => rfl
  | cons c rest ih => rw [insertSorted, List.orderedInsert, ih]

/-- Bindings are sorted by inserting one after the other. -/
theorem foldr_insertSorted (l : List UInt32) :
    l.foldr insertSorted [] = l.insertionSort (· ≤ ·) := by
  rw [funext₂ insertSorted_eq]
  rfl

theorem pairwise_sampledBindings : (ofEntryPoint e).sampledBindings.Pairwise (· < ·) := by
  rw [ofEntryPoint, foldr_insertSorted]
  exact pairwise_eraseReps (List.pairwise_insertionSort _ _)

theorem mem_sampledBindings : b ∈ (ofEntryPoint e).sampledBindings ↔
    .descriptor 0 b .combinedImageSampler ∈ e.resources ∨
      .descriptor 0 b .sampledImage ∈ e.resources := by
  rw [ofEntryPoint, mem_eraseReps, foldr_insertSorted, List.mem_insertionSort,
    List.mem_filterMap]
  simp only [bindingOf?_eq_some_iff, and_or_left, exists_or, exists_eq_right]

variable {reflect : Reflection} {words : List UInt32} {points : List EntryPoint} {start : String}

theorem startsWith_of_entryPoint? (h : entryPoint? points start = some e) :
    StartsWith start e points := by
  rw [entryPoint?, Option.or_eq_some_iff] at h
  rcases h with h | ⟨hnone, hhead⟩
  · obtain ⟨hname, before, after, rfl, hbefore⟩ := List.find?_eq_some_iff_append.1 h
    exact .named (eq_of_beq hname) fun p hp ↦ by simpa using hbefore p hp
  · obtain ⟨rest, rfl⟩ := List.head?_eq_some_iff.1 hhead
    exact .unnamed fun p hp ↦ by simpa using List.find?_eq_none.1 hnone p hp

theorem read_of_reflect (h : reflect words = .ok points) : read reflect words start =
    ((entryPoint? points start).map ofEntryPoint).elim (.error (.error .noEntryPoint)) .ok := by
  rw [read, h]
  cases he : entryPoint? points start <;>
    simp only [Checked.mapError, bind, Except.bind, he] <;> rfl

/-- What a stage takes is what reflection says of its entry point. -/
theorem exists_of_read {i : Interface} (h : read reflect words start = .ok i) :
    ∃ points e, reflect words = .ok points ∧ StartsWith start e points ∧ i = ofEntryPoint e := by
  rcases hpoints : reflect words with fault | points
  · rw [read, hpoints] at h
    cases h
  · rw [read_of_reflect hpoints] at h
    rcases he : entryPoint? points start with _ | e
    · rw [he] at h
      cases h
    · rw [he] at h
      exact ⟨points, e, rfl, startsWith_of_entryPoint? he, (Except.ok.inj h).symm⟩

end Interface

namespace Ty

variable {t : Ty}

/-- The type is an image that is sampled, with its sampler or without. -/
def IsSampled (t : Ty) : Prop := t = .image .sampled ∨ ∃ use, use ≠ .buffer ∧ t = .sampledImage use

theorem isSampled_descriptorType : t.descriptorType.isSampled = true ↔ t.IsSampled := by
  cases t with
  | image use => cases use <;> simp [descriptorType, DescriptorType.isSampled, IsSampled]
  | sampledImage use => cases use <;> simp [descriptorType, DescriptorType.isSampled, IsSampled]
  | _ => simp [descriptorType, DescriptorType.isSampled, IsSampled]

end Ty

namespace Declarations

variable {d : Declarations} {v : Variable} {e : EntryPoint} {b : UInt32}

/-- The variable is an image that is sampled, at a binding of a set. -/
structure SampledAt (d : Declarations) (v : Variable) (set b : UInt32) : Prop where
  /-- It is bound from outside. -/
  storage : v.storage = boundStorage ∨ v.storage = blockStorage ∨ v.storage = writtenBlockStorage
  /-- It is a sampled image. -/
  sampled : v.type.bound.IsSampled
  /-- This is where it is bound. -/
  place : d.bindingPoint v.id = (set, b)

theorem bindingOf?_resource : Interface.bindingOf? (d.resource v) = some b ↔ d.SampledAt v 0 b := by
  rw [resource]
  split
  -- Push constants are not bound.
  · next hpush =>
    have hstorage (h : d.SampledAt v 0 b) : False := by
      rcases h.storage with h | h | h <;> exact absurd (hpush.symm.trans h) (by decide)
    split <;> exact ⟨nofun, fun h ↦ (hstorage h).elim⟩
  split
  · next hstorage =>
    rcases hplace : d.bindingPoint v.id with ⟨set, binding⟩
    simp only [Interface.bindingOf?, Option.ite_none_right_eq_some, Bool.and_eq_true, beq_iff_eq,
      Option.some.injEq, Ty.isSampled_descriptorType]
    constructor
    · rintro ⟨⟨hsampled, rfl⟩, rfl⟩
      exact ⟨by simpa using hstorage, hsampled, hplace⟩
    · rintro ⟨-, hsampled, hpoint⟩
      obtain ⟨rfl, rfl⟩ := Prod.mk.inj (hplace.symm.trans hpoint)
      exact ⟨⟨hsampled, rfl⟩, rfl⟩
  · next hstorage =>
    exact ⟨nofun, fun h ↦ absurd (by simpa using h.storage) hstorage⟩

/-- Where a module is read to its end, the images that a stage takes are the sampled images of the
module, whichever entry point it starts with. -/
theorem mem_sampledBindings_points (he : e ∈ d.points) :
    b ∈ (Interface.ofEntryPoint e).sampledBindings ↔ ∃ v ∈ d.globals, d.SampledAt v 0 b := by
  obtain ⟨⟨function, name⟩, -, rfl⟩ := List.mem_map.1 he
  rw [Interface.ofEntryPoint, mem_eraseReps, Interface.foldr_insertSorted,
    List.mem_insertionSort, List.mem_filterMap]
  simp only [List.mem_map, exists_exists_and_eq_and, bindingOf?_resource]

theorem map_ofEntryPoint_points (start : String) :
    (Interface.entryPoint? d.points start).map Interface.ofEntryPoint =
      d.points.head?.map Interface.ofEntryPoint := by
  have hsame : ∀ e ∈ d.points, ∀ e' ∈ d.points,
      Interface.ofEntryPoint e = Interface.ofEntryPoint e' := by
    intro e he e' he'
    obtain ⟨-, -, rfl⟩ := List.mem_map.1 he
    obtain ⟨-, -, rfl⟩ := List.mem_map.1 he'
    rfl
  rw [Interface.entryPoint?]
  cases hfind : d.points.find? (·.name == start) with
  | none => rfl
  | some e =>
    have he : e ∈ d.points := List.mem_of_find?_eq_some hfind
    obtain ⟨first, rest, hpoints⟩ := List.exists_cons_of_ne_nil (List.ne_nil_of_mem he)
    have hfirst : first ∈ d.points := hpoints ▸ List.mem_cons_self
    simp [hpoints, hsame e he first hfirst]

/-- Every entry point of a module takes the same. -/
theorem read_reflect (words : List UInt32) (start : String) :
    Interface.read reflect words start = Interface.ofWords words := by
  rw [Interface.ofWords]
  rcases hd : ofWords words with e | d
  · simp only [Interface.read, reflect, hd]
    rfl
  · have hpoints : reflect words = .ok d.points := by
      rw [reflect, hd]
      rfl
    rw [Interface.read_of_reflect hpoints, Interface.read_of_reflect hpoints,
      map_ofEntryPoint_points, map_ofEntryPoint_points]

end Declarations

end Spirv

end RenderTargets
