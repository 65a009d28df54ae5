import Mathlib.Data.Nat.Bitwise
import Mathlib.Order.Bounds.Defs
import RenderTargets.Proofs.Vulkan.Reached
/-!
# What a device says it can do

The features follow from two limits of the GPU, the configuration takes some of them away, and what
is left decides whether the limits are told or taken down to one. `Capabilities.IsConsistent` says
what comes of going both ways: a feature is there if and only if the limit behind it is worth
having, the limit is then that of the GPU, and neither says more than the GPU and the configuration
do.

All of it is about single bits (`Features.contains_iff_testBit`), so nothing is asked of the set of
disabled features, which may have bits without a meaning. Nothing is asked of the limits either: a
GPU may say that it has no color attachment, or sample counts that are none.

A device lets no texture have more samples than it says.
-/

namespace RenderTargets

/-! ### Single features -/

namespace Features

variable {a b f : Features} {i : ℕ}

theorem contains_iff_testBit (hf : f.bits.toNat = 2 ^ i) :
    a.contains f ↔ a.bits.toNat.testBit i := by
  rw [contains, beq_iff_eq, ← UInt32.toNat_inj, UInt32.toNat_and, hf, Nat.and_two_pow]
  have hpos : 0 ≠ 2 ^ i := (Nat.two_pow_pos i).ne
  cases a.bits.toNat.testBit i <;> simp [hpos]

theorem contains_union (hf : f.bits.toNat = 2 ^ i) :
    (a.union b).contains f ↔ a.contains f ∨ b.contains f := by
  rw [contains_iff_testBit hf, contains_iff_testBit hf, contains_iff_testBit hf, union,
    UInt32.toNat_or, Nat.testBit_or, Bool.or_eq_true]

theorem contains_diff (hf : f.bits.toNat = 2 ^ i) :
    (a.diff b).contains f ↔ a.contains f ∧ ¬b.contains f := by
  have hi : i < 32 := (Nat.pow_lt_pow_iff_right (a := 2) (by decide)).1 (hf ▸ f.bits.toNat_lt)
  have hnot : (~~~b.bits).toNat.testBit i = !b.bits.toNat.testBit i := by
    have h := Nat.testBit_two_pow_sub_succ b.bits.toNat_lt i
    rw [UInt32.toNat_not, Nat.sub_sub, Nat.add_comm 1, show UInt32.size = 2 ^ 32 from rfl, h,
      decide_eq_true hi, Bool.true_and]
  rw [contains_iff_testBit hf, contains_iff_testBit hf, contains_iff_testBit hf, diff,
    UInt32.toNat_and, Nat.testBit_and, hnot, Bool.and_eq_true, Bool.not_eq_true',
    Bool.not_eq_true]

/-- A feature of its own is there if and only if it was put in. -/
theorem contains_ite {p : Prop} [Decidable p] (hf : none.contains f = false) :
    (if p then a else none).contains f ↔ p ∧ a.contains f := by
  split <;> simp_all

/-- What was taken away is not there. -/
theorem bits_diff_and (a b : Features) : (a.diff b).bits &&& b.bits = 0 := by
  rw [diff, UInt32.and_assoc, UInt32.not_and_self, UInt32.and_zero]

end Features

namespace Vulkan

open StepWith Run

/-! ### Sample counts -/

theorem mem_sampleCounts_iff {n : UInt32} :
    n ∈ sampleCounts ↔ Word.isPowerOfTwo n ∧ n ≤ 64 := by
  constructor
  · have hall : ∀ n ∈ sampleCounts, Word.isPowerOfTwo n ∧ n ≤ 64 := by
      simp only [sampleCounts, List.forall_mem_cons, List.not_mem_nil, false_implies,
        implies_true, and_true]
      decide
    exact hall n
  · rintro ⟨hpow, hle⟩
    -- There are few words up to 64.
    have hall : ∀ k < 65, Word.isPowerOfTwo (.ofNat k) → UInt32.ofNat k ∈ sampleCounts := by decide
    have hlt : n.toNat < 65 := Nat.lt_succ_of_le (UInt32.le_iff_toNat_le.1 hle)
    have hn := hall n.toNat hlt
    rw [UInt32.ofNat_toNat] at hn
    exact hn hpow

/-- The counts that are looked for are those of several samples. -/
theorem mem_several_iff {n : UInt32} :
    n ∈ ([64, 32, 16, 8, 4, 2] : List UInt32) ↔ n ∈ sampleCounts ∧ 1 < n := by
  constructor
  · have hall : ∀ n ∈ ([64, 32, 16, 8, 4, 2] : List UInt32), n ∈ sampleCounts ∧ 1 < n := by
      simp [sampleCounts]
    exact hall n
  · rintro ⟨hmem, hn⟩
    have hall : ∀ n ∈ sampleCounts, 1 < n → n ∈ ([64, 32, 16, 8, 4, 2] : List UInt32) := by
      simp [sampleCounts]
    exact hall n hmem hn

theorem Flags.contains_and {a b n : Flags} :
    Flags.contains (a &&& b) n ↔ Flags.contains a n ∧ Flags.contains b n := by
  simp only [Flags.contains, beq_iff_eq]
  constructor
  · intro h
    constructor
    · rw [← h, ← UInt32.and_assoc, ← UInt32.and_assoc, UInt32.and_self]
    · rw [← h, UInt32.and_comm a b, ← UInt32.and_assoc, ← UInt32.and_assoc, UInt32.and_self]
  · rintro ⟨ha, hb⟩
    rw [UInt32.and_assoc, hb, ha]

/-- Of the sample counts among the flags, the largest is found, unless there is only one sample. -/
theorem isGreatest_largestSampleCount {flags : Flags} (h : 1 < largestSampleCount flags) :
    IsGreatest {n | n ∈ sampleCounts ∧ Flags.contains flags n} (largestSampleCount flags) := by
  rw [largestSampleCount] at h ⊢
  rcases hfind : ([64, 32, 16, 8, 4, 2] : List UInt32).find? fun n ↦ Flags.contains flags n with
    _ | n
  · rw [hfind] at h
    exact absurd h (by decide)
  · obtain ⟨hn, before, after, hsplit, hbefore⟩ := List.find?_eq_some_iff_append.1 hfind
    obtain ⟨hmem, hone⟩ := mem_several_iff.1 (List.mem_of_find?_eq_some hfind)
    have hdesc : (before ++ n :: after).Pairwise (fun a b : UInt32 ↦ b ≤ a) :=
      hsplit ▸ by decide
    refine ⟨⟨hmem, hn⟩, fun m ⟨hm, hcontains⟩ ↦ ?_⟩
    rw [Option.getD_some]
    by_cases hseveral : 1 < m
    · -- A count before the one that was found is not among the flags, and one after it is less.
      have hlist : m ∈ before ++ n :: after := hsplit ▸ mem_several_iff.2 ⟨hm, hseveral⟩
      rcases List.mem_append.1 hlist with hm' | hm'
      · exact absurd hcontains (by simpa using hbefore m hm')
      · rcases List.mem_cons.1 hm' with rfl | hm'
        · exact UInt32.le_refl m
        · exact (List.pairwise_cons.1 (List.pairwise_append.1 hdesc).2.1).1 m hm'
    · exact UInt32.le_trans (UInt32.not_lt.1 hseveral) (UInt32.le_of_lt hone)

/-! ### Consistent capabilities -/

/-- The capabilities are those of a GPU with these limits, as far as they are not disabled. -/
structure Capabilities.IsConsistent (c : Capabilities) (l : Limits) (disabled : Features) :
    Prop where
  /-- Nothing is told that is disabled. -/
  enabled : c.features.bits &&& disabled.bits = 0
  /-- Nothing is told that has no meaning. -/
  known : c.features.bits &&& Features.every.bits = c.features.bits
  /-- Several targets are told if and only if there may be several attachments. -/
  targets : c.features.contains .multipleTargets ↔ 2 ≤ c.maxColors
  /-- There may then be as many as the GPU takes. -/
  colors : c.features.contains .multipleTargets → c.maxColors = l.maxColors
  /-- What the GPU can do and is not disabled is told. -/
  offersTargets : c.features.contains .multipleTargets ↔
    2 ≤ l.maxColors ∧ ¬disabled.contains .multipleTargets
  /-- Multisampling is told if and only if there may be several samples. -/
  sampling : c.features.contains .multisampling ↔ 1 < c.maxSamples
  /-- There may then be as many as is the largest count for both color and depth. -/
  samples : c.features.contains .multisampling →
    IsGreatest {n | (Word.isPowerOfTwo n ∧ n ≤ 64) ∧
      Flags.contains l.colorSamples n ∧ Flags.contains l.depthSamples n} c.maxSamples
  /-- What the GPU can do and is not disabled is told. -/
  offersSampling : c.features.contains .multisampling ↔
    (∃ n ∈ sampleCounts, 1 < n ∧ Flags.contains l.colorSamples n ∧
      Flags.contains l.depthSamples n) ∧ ¬disabled.contains .multisampling

/-- One sample count among the flags is larger than one if and only if the largest one is. -/
theorem one_lt_largestSampleCount_iff {flags : Flags} :
    1 < largestSampleCount flags ↔ ∃ n ∈ sampleCounts, 1 < n ∧ Flags.contains flags n := by
  constructor
  · intro h
    obtain ⟨hmem, hcontains⟩ := (isGreatest_largestSampleCount h).1
    exact ⟨_, hmem, h, hcontains⟩
  · rintro ⟨n, hmem, hn, hcontains⟩
    rw [largestSampleCount]
    rcases hfind : ([64, 32, 16, 8, 4, 2] : List UInt32).find? fun n ↦ Flags.contains flags n with
      _ | m
    · exact absurd hcontains (List.find?_eq_none.1 hfind n (mem_several_iff.2 ⟨hmem, hn⟩))
    · exact (mem_several_iff.1 (List.mem_of_find?_eq_some hfind)).2

/-- A limit that is taken to be one at least is worth having if it was so before. -/
theorem two_le_max_one_iff {n : UInt32} : 2 ≤ max n 1 ↔ 2 ≤ n := by
  show 2 ≤ (if n ≤ 1 then 1 else n) ↔ 2 ≤ n
  split
  · next h =>
    have hlt : ¬2 ≤ n := by
      rw [UInt32.le_iff_toNat_le] at h ⊢
      exact Nat.not_le_of_lt (Nat.lt_succ_of_le h)
    exact iff_of_false (by decide) hlt
  · exact Iff.rfl

theorem max_one_of_two_le {n : UInt32} (h : 2 ≤ n) : max n 1 = n := by
  show (if n ≤ 1 then 1 else n) = n
  refine if_neg fun hle ↦ ?_
  exact absurd (UInt32.le_trans h hle) (by decide)

namespace Limits

variable (l : Limits) (disabled : Features)

theorem contains_multipleTargets : (l.capabilities disabled).features.contains .multipleTargets ↔
    2 ≤ l.maxColors ∧ ¬disabled.contains .multipleTargets := by
  rw [capabilities, Features.contains_diff (i := 0) rfl, Features.contains_union (i := 0) rfl,
    Features.contains_ite (by decide), Features.contains_ite (by decide), ge_iff_le,
    two_le_max_one_iff]
  have hself : Features.multipleTargets.contains .multipleTargets = true := by decide
  have hother : Features.multisampling.contains .multipleTargets = false := by decide
  simp [hself, hother]

theorem contains_multisampling : (l.capabilities disabled).features.contains .multisampling ↔
    1 < largestSampleCount (l.colorSamples &&& l.depthSamples) ∧
      ¬disabled.contains .multisampling := by
  rw [capabilities, Features.contains_diff (i := 1) rfl, Features.contains_union (i := 1) rfl,
    Features.contains_ite (by decide), Features.contains_ite (by decide), gt_iff_lt]
  have hself : Features.multisampling.contains .multisampling = true := by decide
  have hother : Features.multipleTargets.contains .multisampling = false := by decide
  simp [hself, hother]

theorem maxColors_eq : (l.capabilities disabled).maxColors =
    if (l.capabilities disabled).features.contains .multipleTargets then max l.maxColors 1 else 1 :=
  rfl

theorem maxSamples_eq : (l.capabilities disabled).maxSamples =
    if (l.capabilities disabled).features.contains .multisampling then
      largestSampleCount (l.colorSamples &&& l.depthSamples)
    else 1 :=
  rfl

/-- **The capabilities of a GPU are consistent**, whatever its limits are and whatever is
disabled. -/
theorem isConsistent_capabilities : (l.capabilities disabled).IsConsistent l disabled where
  enabled := Features.bits_diff_and _ _
  known := by
    have hunion : ∀ p q : Bool, ((if p then Features.multipleTargets else .none).union
        (if q then Features.multisampling else .none)).bits &&& Features.every.bits =
        ((if p then Features.multipleTargets else .none).union
          (if q then Features.multisampling else .none)).bits := by decide
    have h := hunion (max l.maxColors 1 ≥ 2)
      (largestSampleCount (l.colorSamples &&& l.depthSamples) > 1)
    simp only [decide_eq_true_eq] at h
    rw [capabilities, Features.diff, UInt32.and_assoc, UInt32.and_comm (~~~_), ← UInt32.and_assoc,
      h]
  targets := by
    rw [maxColors_eq]
    split
    · next h =>
      exact iff_of_true h (two_le_max_one_iff.2 ((l.contains_multipleTargets disabled).1 h).1)
    · next h => exact iff_of_false h (by decide)
  colors h := by
    rw [maxColors_eq, if_pos h]
    exact max_one_of_two_le ((l.contains_multipleTargets disabled).1 h).1
  offersTargets := l.contains_multipleTargets disabled
  sampling := by
    rw [maxSamples_eq]
    split
    · next h => exact iff_of_true h ((l.contains_multisampling disabled).1 h).1
    · next h => exact iff_of_false h (by decide)
  samples h := by
    have hgreatest := isGreatest_largestSampleCount ((l.contains_multisampling disabled).1 h).1
    rw [maxSamples_eq, if_pos h]
    simpa only [mem_sampleCounts_iff, Flags.contains_and] using hgreatest
  offersSampling := by
    rw [contains_multisampling, one_lt_largestSampleCount_iff]
    simp only [Flags.contains_and]

end Limits

/-! ### On a device -/

namespace Device

variable {s t : Device × Host}

/-- A texture that is made was described well, and has no more samples than the device has. -/
theorem meets_createTexture_samples (d : Device) (t : TextureDesc) :
    Meets (RunOn.At d fun _ ↦ True) (createTexture t)
      (fun _ _ ↦ t.validate = .ok () ∧ t.samples ≤ d.capabilities.maxSamples) fun _ _ ↦ True := by
  refine RunOn.meets_part_bind (.ite (fun _ ↦ .fail_bind fun _ _ ↦ trivial) fun hfew ↦ ?_)
  have hvalid : Meets (fun _ ↦ True) (Texture.create d.context t)
      (fun _ _ ↦ t.validate = .ok ()) fun _ _ ↦ True :=
    (Texture.answers_create.meets .any).post fun _ _ h ↦ h.1.1
  refine RunOn.meets_lift_bind hvalid (fun _ _ _ ↦ trivial) fun _ ↦ ?_
  refine (Keeps.const (p := t.validate = .ok ())).mono (fun _ hs ↦ hs.2) (fun _ _ hs ↦ ⟨hs, ?_⟩)
    fun _ _ _ ↦ trivial
  exact UInt32.not_lt.1 hfew

/-- A texture with more samples is refused before anything is done. -/
theorem createTexture_of_lt {t : TextureDesc} (h : s.1.capabilities.maxSamples < t.samples) :
    createTexture t s = .error (.error (.invalid (.texture t.name
      (.tooManySamples t.samples s.1.capabilities.maxSamples)))) s := by
  have hpart : (RunOn.part : DeviceStep Device) s = .ok s.1 s := rfl
  rw [createTexture, bind_ok hpart, if_pos h]
  rfl

/-- **What a device says it can do is consistent and never more than there is.** A texture that is
made keeps to it, and one that wants more samples is refused at once. -/
theorem capabilities_consistent (l : Limits) (disabled : Features) :
    (l.capabilities disabled).IsConsistent l disabled ∧
      ∀ (s : Device × Host) (t : TextureDesc), s.1.capabilities = l.capabilities disabled →
        (∀ id u, createTexture t s = .ok id u →
          t.validate = .ok () ∧ t.samples ≤ (l.capabilities disabled).maxSamples) ∧
        ((l.capabilities disabled).maxSamples < t.samples →
          createTexture t s = .error (.error (.invalid (.texture t.name
            (.tooManySamples t.samples (l.capabilities disabled).maxSamples)))) s) := by
  refine ⟨l.isConsistent_capabilities disabled, fun s t hs ↦ ⟨fun id u ht ↦ ?_, fun h ↦ ?_⟩⟩
  · rw [← hs]
    exact (meets_createTexture_samples s.1 t).ok ⟨rfl, trivial⟩ ht
  · rw [← hs] at h ⊢
    exact createTexture_of_lt h

/-- Of a device with up to eight samples, a texture gets four and none gets sixteen. -/
theorem capabilities_consistent_plain : ∃ (s : Device × Host) (id : TextureId) (u : Device × Host),
    IsNew s ∧ createTexture { plainTexture with samples := 4 } s = .ok id u ∧
      4 ≤ s.1.capabilities.maxSamples ∧
      createTexture { plainTexture with samples := 16 } s =
        .error (.error (.invalid (.texture "color" (.tooManySamples 16 8)))) s := by
  obtain ⟨s, hs, hcheck⟩ := exists_new plainSurface [] (fun s ↦
    s.1.capabilities == (⟨8, 15, 15⟩ : Limits).capabilities .none &&
      match createTexture { plainTexture with samples := 4 } s with
      | .ok _ _ => true
      | .error _ _ => false) (by decide +kernel)
  obtain ⟨hc, hmade⟩ := Bool.and_eq_true_iff.1 hcheck
  have hlimits := beq_iff_eq.1 hc
  split at hmade
  · next id u hok =>
    have hsame := (capabilities_consistent ⟨8, 15, 15⟩ .none).2 s
    refine ⟨s, id, u, hs, hok, ?_, ?_⟩
    · rw [hlimits]
      exact ((hsame { plainTexture with samples := 4 } hlimits).1 id u hok).2
    · exact (hsame { plainTexture with samples := 16 } hlimits).2 (by decide)
  · cases hmade

end Device

end Vulkan

end RenderTargets
