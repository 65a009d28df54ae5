import Mathlib.Order.Bounds.Basic
import RenderTargets.Proofs.Lists
import RenderTargets.Proofs.Recorder.Growth
import RenderTargets.Proofs.Vulkan.Device.Evident
import RenderTargets.Proofs.Vulkan.Positions
/-!
# Distinct attachments

A pass renders into every texture once. The check of a description goes over its attachments and
looks each one up among those before it, so what it finds is the first attachment that repeats
another, and the first one that it repeats (`FirstRepeat`). The message names both, and they can be
read off it (`PassDefect.message_sharedTexture_inj`). If nothing is found, **all textures are
different**, and what is left of the check is about the depth to clear to (`PassDesc.FindsShared`).

## On the devices

Both devices make a pass only of a description that passes the check, so no pass that was ever made
repeats a texture. On a Vulkan device this reaches further down. What is put together in a
framebuffer are views, of which a texture has one for each `Vulkan.Role` at most. A sound device
holds nothing twice, so a view tells its texture and its role (`Vulkan.Device.viewFor?_inj`), and
**no view is bound twice** (`Vulkan.Pass.BindsOnce`). The texture for depth may well be one of those
rendered into: its depth buffer is another view.
-/

namespace RenderTargets

open StepWith GraphicsDevice

/-! ### Repetitions in lists -/

section Repeats

variable {α : Type} {l : List α} {i j i' j' : ℕ}

/-- What is at `i` in the list is at `j` before. -/
def Repeats (l : List α) (j i : ℕ) : Prop := j < i ∧ ∃ a, l[j]? = some a ∧ l[i]? = some a

/-- `i` is the least place where something is that was there before, and `j` the least place where
it was. -/
structure FirstRepeat (l : List α) (j i : ℕ) : Prop where
  /-- Something is repeated at `i`, and nothing before. -/
  least : IsLeast {i | ∃ j, Repeats l j i} i
  /-- It is at `j`, and not before. -/
  earliest : IsLeast {j | Repeats l j i} j

theorem FirstRepeat.unique (h : FirstRepeat l j i) (h' : FirstRepeat l j' i') :
    j = j' ∧ i = i' := by
  obtain rfl := h.least.unique h'.least
  exact ⟨h.earliest.unique h'.earliest, rfl⟩

theorem nodup_iff_forall_not_repeats : l.Nodup ↔ ∀ j i, ¬Repeats l j i := by
  rw [List.nodup_iff_getElem?_ne_getElem?]
  refine forall₂_congr fun j i ↦ ⟨?_, fun h hji hi he ↦ ?_⟩
  · rintro h ⟨hji, a, hj, hi⟩
    exact h hji (List.getElem?_eq_some_iff.1 hi).1 (hj.trans hi.symm)
  · have ha := List.getElem?_eq_getElem hi
    exact h ⟨hji, l[i], he.trans ha, ha⟩

end Repeats

namespace PassDesc

variable {seen rest ids : List TextureId} {t : TextureId} {i j : ℕ} {p : PassDesc} {limit : UInt32}

/-- If nothing is repeated in what was seen, the next place is the first that repeats. -/
theorem firstRepeat_of_findIdx? (hseen : seen.Nodup) (h : seen.findIdx? (· == t) = some j) :
    FirstRepeat (seen ++ t :: rest) j seen.length := by
  obtain ⟨hlt, ht, hbefore⟩ := List.findIdx?_eq_some_iff_getElem.1 h
  have hat {k : ℕ} (hk : k < seen.length) : (seen ++ t :: rest)[k]? = seen[k]? :=
    List.getElem?_append_left hk
  have hself : (seen ++ t :: rest)[seen.length]? = some t := by simp
  have hrepeats : Repeats (seen ++ t :: rest) j seen.length := by
    refine ⟨hlt, t, ?_, hself⟩
    rw [hat hlt, List.getElem?_eq_getElem hlt, eq_of_beq ht]
  refine ⟨⟨⟨j, hrepeats⟩, ?_⟩, hrepeats, ?_⟩
  · rintro i ⟨k, hki, a, hk, hi⟩
    by_contra! hlt'
    -- Both places would be among what was seen.
    rw [hat (hki.trans hlt')] at hk
    rw [hat hlt'] at hi
    exact nodup_iff_forall_not_repeats.1 hseen k i ⟨hki, a, hk, hi⟩
  · rintro k ⟨hk, a, ha, ha'⟩
    by_contra! hkj
    obtain rfl := Option.some.inj (hself.symm.trans ha')
    rw [hat hk, List.getElem?_eq_getElem hk] at ha
    exact hbefore k hkj (beq_iff_eq.2 (Option.some.inj ha))

/-- What was not seen may be seen next. -/
theorem nodup_concat_of_findIdx? (hseen : seen.Nodup) (h : seen.findIdx? (· == t) = none) :
    (seen ++ [t]).Nodup := by
  have ht : t ∉ seen := fun ht ↦ by simpa using List.findIdx?_eq_none_iff.1 h t ht
  exact hseen.append (List.nodup_singleton t) (by simpa using ht)

/-- What is found is the first that repeats, if there is none in what was seen. -/
theorem firstRepeat_of_findShared (hseen : seen.Nodup) (h : findShared seen rest = some (j, i)) :
    FirstRepeat (seen ++ rest) j i := by
  fun_induction findShared seen rest with
  | case1 => cases h
  | case2 seen t rest k hk =>
    cases h
    exact firstRepeat_of_findIdx? hseen hk
  | case3 seen t rest hnone ih =>
    rw [List.append_cons]
    exact ih (nodup_concat_of_findIdx? hseen hnone) h

/-- If nothing is found, nothing repeats. -/
theorem nodup_of_findShared (hseen : seen.Nodup) (h : findShared seen rest = none) :
    (seen ++ rest).Nodup := by
  fun_induction findShared seen rest with
  | case1 => rwa [List.append_nil]
  | case2 => cases h
  | case3 seen t rest hnone ih =>
    rw [List.append_cons]
    exact ih (nodup_concat_of_findIdx? hseen hnone) h

theorem findShared_eq_none_iff : findShared [] ids = none ↔ ids.Nodup := by
  refine ⟨nodup_of_findShared .nil, fun hids ↦ ?_⟩
  rcases h : findShared [] ids with _ | ⟨j, i⟩
  · rfl
  · have hfirst := firstRepeat_of_findShared .nil h
    exact (nodup_iff_forall_not_repeats.1 hids j i hfirst.earliest.1).elim

theorem findShared_eq_some_iff : findShared [] ids = some (j, i) ↔ FirstRepeat ids j i := by
  refine ⟨firstRepeat_of_findShared .nil, fun hfirst ↦ ?_⟩
  rcases h : findShared [] ids with _ | ⟨j', i'⟩
  · have hids := findShared_eq_none_iff.1 h
    exact (nodup_iff_forall_not_repeats.1 hids j i hfirst.earliest.1).elim
  · obtain ⟨rfl, rfl⟩ := hfirst.unique (firstRepeat_of_findShared .nil h)
    rfl

/-- What the check comes to if there are as many attachments as there may be. -/
theorem validate_eq (hcolors : p.colors ≠ []) (hlimit : p.colors.length ≤ limit.toNat) :
    p.validate limit =
      match findShared [] p.textures with
      | some (j, i) => .error (.sharedTexture j i)
      | none => if p.hasClearDepth then .ok () else .error (.clearDepth p.clearDepth) := by
  rw [validate, throw_bind_eq, if_neg (by simpa using hcolors), throw_bind_eq,
    if_neg (Nat.not_lt.2 hlimit)]
  rcases findShared [] p.textures with _ | ⟨j, i⟩
  · cases p.hasClearDepth <;> rfl
  · rfl

/-- The textures of a description that passes the check are different. -/
theorem nodup_of_validate (h : p.validate limit = .ok ()) : p.textures.Nodup := by
  obtain ⟨hcolors, hlimit⟩ := length_of_validate h
  rw [validate_eq hcolors hlimit] at h
  split at h
  · cases h
  · next hnone => exact findShared_eq_none_iff.1 hnone

end PassDesc

/-! ### In words -/

namespace PassDefect

variable {j i j' i' : ℕ} {name : String} {e : PassDefect}

theorem toDigits_inj {m n : ℕ} (h : Nat.toDigits 10 m = Nat.toDigits 10 n) : m = n := by
  rw [← Nat.ofDigitChars_ten_toDigits (n := m), h, Nat.ofDigitChars_ten_toDigits]

theorem message_sharedTexture (j i : ℕ) : (sharedTexture j i).message =
    "binds the same texture to attachments " ++ j.repr ++ " and " ++ i.repr :=
  rfl

theorem toList_message_sharedTexture (j i : ℕ) :
    (sharedTexture j i).message.toList = "binds the same texture to attachments ".toList ++
      (Nat.toDigits 10 j ++ (" and ".toList ++ Nat.toDigits 10 i)) := by
  rw [message_sharedTexture]
  simp only [String.toList_append, Nat.toList_repr, List.append_assoc]

/-- The first number ends where the digits end. -/
theorem takeWhile_digits (j : ℕ) (l : List Char) :
    (Nat.toDigits 10 j ++ (" and ".toList ++ l)).takeWhile Char.isDigit = Nat.toDigits 10 j := by
  rw [List.takeWhile_append_of_pos fun c ↦ Nat.isDigit_of_mem_toDigits (by decide) (by decide)]
  exact List.append_nil _

/-- Both places can be read off the message. -/
theorem message_sharedTexture_inj
    (h : (sharedTexture j i).message = (sharedTexture j' i').message) : j = j' ∧ i = i' := by
  have hlists := congrArg String.toList h
  rw [toList_message_sharedTexture, toList_message_sharedTexture, List.append_cancel_left_eq]
    at hlists
  have hj : j = j' := toDigits_inj <| by
    rw [← takeWhile_digits j, hlists, takeWhile_digits]
  subst hj
  rw [List.append_cancel_left_eq, List.append_cancel_left_eq] at hlists
  exact ⟨rfl, toDigits_inj hlists⟩

theorem message_clearDepth_ne (d : Single) :
    (clearDepth d).message ≠ (sharedTexture j i).message := fun h ↦ by
  have hlists := congrArg String.toList h
  rw [toList_message_sharedTexture, show (clearDepth d).message = "clear depth " ++ d.toText ++
    " is outside 0..1" from rfl, String.toList_append, String.toList_append] at hlists
  cases congrArg List.head? hlists

/-- The message with the name of a pass. -/
theorem message_pass_eq_iff : (InvalidCause.pass name e).message =
    s!"pass '{name}' binds the same texture to attachments {j} and {i}" ↔
      e.message = (sharedTexture j i).message := by
  have hsplit : s!"pass '{name}' binds the same texture to attachments {j} and {i}" =
      "pass '" ++ name ++ "' " ++ (sharedTexture j i).message := by
    rw [message_sharedTexture]
    simp only [String.append_assoc]
    rfl
  rw [hsplit]
  exact String.append_right_inj _

end PassDefect

namespace PassDesc

/-- What the check of a description says of its textures. -/
structure FindsShared (p : PassDesc) (limit : UInt32) : Prop where
  /-- A shared texture is found if and only if there is one. -/
  rejects : (∃ j i, p.validate limit = .error (.sharedTexture j i)) ↔ ∃ j i, Repeats p.textures j i
  /-- The message names the first that repeats, and the first one that it repeats. -/
  names : ∀ j i, (∃ e, p.validate limit = .error e ∧ (InvalidCause.pass p.name e).message =
    s!"pass '{p.name}' binds the same texture to attachments {j} and {i}") ↔
      FirstRepeat p.textures j i
  /-- If all are different, it is a matter of the depth to clear to. -/
  otherwise : p.textures.Nodup → p.validate limit =
    if p.hasClearDepth then .ok () else .error (.clearDepth p.clearDepth)

variable {p : PassDesc} {limit : UInt32} {i j : ℕ}

theorem validate_eq_sharedTexture_iff (hcolors : p.colors ≠ [])
    (hlimit : p.colors.length ≤ limit.toNat) :
    p.validate limit = .error (.sharedTexture j i) ↔ FirstRepeat p.textures j i := by
  rw [validate_eq hcolors hlimit, ← findShared_eq_some_iff]
  split
  · next h => simp [h]
  · next h =>
    split <;> simp [h]

/-- No other defect that the check finds has this message. -/
theorem eq_sharedTexture_of_message {e : PassDefect} (hcolors : p.colors ≠ [])
    (hlimit : p.colors.length ≤ limit.toNat) (he : p.validate limit = .error e)
    (hmessage : e.message = (PassDefect.sharedTexture j i).message) : e = .sharedTexture j i := by
  rw [validate_eq hcolors hlimit] at he
  split at he
  · cases he
    obtain ⟨rfl, rfl⟩ := PassDefect.message_sharedTexture_inj hmessage
    rfl
  · split at he
    · cases he
    · cases he
      exact (PassDefect.message_clearDepth_ne _ hmessage).elim

theorem findsShared (hcolors : p.colors ≠ []) (hlimit : p.colors.length ≤ limit.toNat) :
    p.FindsShared limit where
  rejects := by
    simp only [validate_eq_sharedTexture_iff hcolors hlimit]
    refine ⟨fun ⟨j, i, h⟩ ↦ ⟨j, i, h.earliest.1⟩, fun ⟨j, i, h⟩ ↦ ?_⟩
    rcases hfound : findShared [] p.textures with _ | ⟨j', i'⟩
    · exact (nodup_iff_forall_not_repeats.1 (findShared_eq_none_iff.1 hfound) j i h).elim
    · exact ⟨j', i', findShared_eq_some_iff.1 hfound⟩
  names j i := by
    simp only [← validate_eq_sharedTexture_iff hcolors hlimit, PassDefect.message_pass_eq_iff]
    refine ⟨fun ⟨e, he, hmessage⟩ ↦ ?_, fun h ↦ ⟨_, h, rfl⟩⟩
    exact eq_sharedTexture_of_message hcolors hlimit he hmessage ▸ he
  otherwise hids := by rw [validate_eq hcolors hlimit, findShared_eq_none_iff.2 hids]

end PassDesc

/-! ### Passes that were made -/

variable {l : List (GraphicsDevice.Command × Option ResourceId)} {d : PassDesc} {q : PassId}
  {a : Option ResourceId}

namespace Recorder

variable {s t : Recorder × Log.Journal}

theorem nodup_of_taken (took : (Command.createPass d).answer s = .ok a t) : d.textures.Nodup := by
  obtain ⟨r', hr, -⟩ := answer_ok_iff.1 took
  cases hr with
  | createPass hvalid => exact PassDesc.nodup_of_validate hvalid

/-- The passes of a recorder are of different textures. -/
theorem Reached.nodup_textures (hs : Reached l s) (hd : s.1.passes.get? q = some d) :
    d.textures.Nodup := by
  obtain ⟨after, ⟨before, rfl, -⟩, -⟩ := hs.attached hd
  obtain ⟨_, _, _, -, took⟩ := hs.exists_taken (List.mem_append_right _ List.mem_cons_self)
  exact nodup_of_taken took

end Recorder

namespace Vulkan

/-! ### The views of a texture -/

/-- What a pass uses a view for. -/
inductive Role
  /-- It is rendered into. -/
  | color
  /-- What is rendered is resolved into it. -/
  | resolve
  /-- It is the depth buffer. -/
  | depth
  deriving DecidableEq

variable {t u : Texture} {r r' : Role} {v : Object .view} {m : TextureMap} {x y : TextureId}
  {s : Device × Host} {parts : Pass.Parts} {p : Pass}

namespace Texture

/-- The image of a texture for a role. -/
def imageFor? (t : Texture) : Role → Option Image
  | .color => some t.color
  | .resolve => t.resolve
  | .depth => t.depth.map (·.2)

/-- The view of a texture for a role. -/
def viewFor? (t : Texture) (r : Role) : Option (Object .view) := (t.imageFor? r).map (·.view)

theorem viewFor?_depth : t.viewFor? .depth = t.depthView? := Option.map_map _ _ _

theorem estate_eq_sum (t : Texture) : t.estate =
    ([.color, .resolve, .depth].map fun r ↦ Image.estateOption (t.imageFor? r)).sum := by
  rw [estate, add_assoc]
  simp only [List.map_cons, List.map_nil, List.sum_cons, List.sum_nil, add_zero]
  rfl

theorem mem_roles (r : Role) : r ∈ [.color, .resolve, .depth] := by cases r <;> decide

theorem mem_estateOption (h : t.viewFor? r = some v) :
    ⟨v.any, none⟩ ∈ (Image.estateOption (t.imageFor? r)).1 := by
  obtain ⟨i, hi, rfl⟩ := Option.map_eq_some_iff.1 h
  rw [hi]
  simp [Image.estateOption, Image.estate]

theorem mem_estate_of_viewFor? (h : t.viewFor? r = some v) : ⟨v.any, none⟩ ∈ t.estate.1 := by
  rw [estate_eq_sum]
  exact Estate.mem_sum (mem_roles r) (mem_estateOption h)

/-- If a texture holds nothing twice, a view tells its role. -/
theorem role_unique (ht : t.estate.1.Nodup) (h : t.viewFor? r = some v)
    (h' : t.viewFor? r' = some v) : r = r' :=
  Estate.eq_of_mem_sum (t.estate_eq_sum ▸ ht) (mem_roles r) (mem_roles r') (mem_estateOption h)
    (mem_estateOption h')

end Texture

/-- A view of a sound device tells its texture and its role. -/
theorem Device.viewFor?_inj {always now : Prop} (hs : Sound always now s)
    (ht : s.1.textures.get? x = some t) (hu : s.1.textures.get? y = some u)
    (hv : t.viewFor? r = some v) (hv' : u.viewFor? r' = some v) : (x, r) = (y, r') := by
  obtain ⟨m, hm⟩ : ∃ m, s.1.textures.remove x = some (t, m) :=
    ⟨_, Slot.Map.remove_eq_some_iff.2 ⟨ht, rfl⟩⟩
  have hnodup : (t.estate + stock Texture.estate m).1.Nodup := by
    rw [← stock_remove hm]
    have hall := Books.nodup hs.2
    simp only [Device.estate, otherEstate, resourceEstate, Prod.fst_add, Multiset.nodup_add] at hall
    tauto
  obtain ⟨hestate, -, hdisjoint⟩ := Multiset.nodup_add.1 hnodup
  by_cases hxy : x = y
  · subst hxy
    obtain rfl := Option.some.inj (ht.symm.trans hu)
    rw [Texture.role_unique hestate hv hv']
  · have hrest := (Slot.Map.get?_remove_of_ne hm (Ne.symm hxy)).trans hu
    have hstock : ⟨v.any, none⟩ ∈ (stock Texture.estate m).1 :=
      Estate.mem_sum (Slot.Map.mem_values_of_get? hrest) (Texture.mem_estate_of_viewFor? hv')
    exact (Multiset.disjoint_left.1 hdisjoint (Texture.mem_estate_of_viewFor? hv) hstock).elim

namespace Pass

/-- The views of a pass by texture and role, in the order of its attachments. -/
def rolesOf (d : PassDesc) (resolves : Bool) : List (TextureId × Role) :=
  d.textures.map (·, .color) ++ (if resolves then d.textures else []).map (·, .resolve) ++
    d.depth.toList.map (·, .depth)

theorem nodup_rolesOf {resolves : Bool} (hd : d.textures.Nodup) : (rolesOf d resolves).Nodup := by
  have hrole {ids : List TextureId} (hids : ids.Nodup) (r : Role) : (ids.map (·, r)).Nodup :=
    hids.map fun x y h ↦ (Prod.mk.inj h).1
  have hapart {r r' : Role} (hr : r ≠ r') (ids ids' : List TextureId) :
      (ids.map (·, r)).Disjoint (ids'.map (·, r')) := by
    simp [List.disjoint_left, hr.symm]
  have hresolves : (if resolves then d.textures else []).Nodup := by
    split
    · exact hd
    · exact .nil
  have hdepth : d.depth.toList.Nodup := by cases d.depth <;> simp
  refine ((hrole hd .color).append (hrole hresolves .resolve) ?_).append (hrole hdepth .depth) ?_
  · exact hapart (by decide) _ _
  · exact List.disjoint_append_left.2 ⟨hapart (by decide) _ _, hapart (by decide) _ _⟩

theorem forall₂_rolesOf (hparts : partsOf d m = .ok parts) :
    List.Forall₂ (fun k v ↦ ∃ t, m.get? k.1 = some t ∧ t.viewFor? k.2 = some v)
      (rolesOf d parts.resolves) (viewsOf parts) := by
  have hcolors := forall₂_of_colorTextures (fit_of_partsOf hparts).colors
  refine List.rel_append (List.rel_append ?_ ?_) ?_
  · rw [List.forall₂_map_left_iff, List.forall₂_map_right_iff]
    exact hcolors.imp fun x t ht ↦ ⟨t, ht, rfl⟩
  · by_cases hr : parts.resolves
    · rw [if_pos hr, if_pos hr, List.forall₂_map_left_iff]
      have hviews : List.Forall₂ (fun x o ↦ ∃ t, m.get? x = some t ∧ t.viewFor? .resolve = o)
          d.textures (parts.colors.map fun t ↦ t.resolve.map (·.view)) :=
        List.forall₂_map_right_iff.2 (hcolors.imp fun x t ht ↦ ⟨t, ht, rfl⟩)
      rwa [← map_resolve_of_partsOf hparts hr, List.forall₂_map_right_iff] at hviews
    · rw [if_neg hr, if_neg hr]
      exact .nil
  · rcases depth_of_partsOf hparts with ⟨hd, ht⟩ | ⟨x, t, f, i, hx, ht, hfound, hi⟩
    · rw [hd, ht]
      exact .nil
    · have hview : t.depthView? = some i.view := by rw [Texture.depthView?, hi, Option.map_some]
      rw [hx, ht, Option.bind_some, hview]
      exact .cons ⟨t, hfound, Texture.viewFor?_depth.trans hview⟩ .nil

/-- No view is there twice. -/
theorem nodup_viewsOf {always now : Prop} (hs : Device.Sound always now s) (hd : d.textures.Nodup)
    (hparts : partsOf d s.1.textures = .ok parts) : (viewsOf parts).Nodup := by
  refine pairwise_of_forall₂ (forall₂_rolesOf hparts) (nodup_rolesOf hd) ?_
  rintro k v k' v' ⟨t, ht, hv⟩ ⟨u, hu, hv'⟩ hne rfl
  exact hne (Device.viewFor?_inj hs ht hu hv hv')

end Pass

/-! ### Passes that a device has -/

/-- The textures rendered into are different, and so are the views that were put together. -/
structure Pass.BindsOnce (p : Pass) (calls : List Call) : Prop where
  /-- The textures. -/
  textures : p.textures.Nodup
  /-- The views, among which are those of what is resolved into and of the depth buffer. -/
  views : ∃ info, Making.framebuffer.of? p.framebuffer calls = some info ∧ info.views.Nodup

namespace Device

theorem nodup_of_taken {s t : Device × Host} (took : (Command.createPass d).answer s = .ok a t) :
    d.textures.Nodup := by
  have hmade := makes_createPass (d := s.1) (p := d) (P := fun _ ↦ True)
    (Q := fun _ _ ↦ d.textures.Nodup)
    ((Pass.answers_create.meets .any).post fun _ _ h ↦ PassDesc.nodup_of_validate h.1.1)
    fun _ _ _ h ↦ h
  have htaken : Meets (RunOn.At s.1 fun _ ↦ True) (Command.createPass d).answer
      (fun _ _ ↦ d.textures.Nodup) fun _ ↦ RunOn.At s.1 fun _ ↦ True :=
    .map (hmade.post fun _ _ ⟨_, _, _, hs⟩ ↦ hs.2)
  exact htaken.ok ⟨rfl, trivial⟩ took

/-- The views of a pass were different when they were put together. -/
theorem Reached.nodup_views (hs : Reached l s) (hp : s.1.passes.get? q = some p) :
    ∃ info, .createFramebuffer p.framebuffer info ∈ s.2.driver.calls ∧ info.views.Nodup := by
  induction hs generalizing p with
  | start h => cases (h.get?_passes q).symm.trans hp
  | taken hs took ih =>
    have hl := (Reached.suffix hs (settle_of_ok took)).subset
    rcases (meets_updates.ok ⟨rfl, trivial⟩ took).pass hp with
      ⟨hp, -⟩ | ⟨d, parts, rfl, -, hparts, -, hjoined, -⟩
    · obtain ⟨info, hinfo, hviews⟩ := ih hp
      exact ⟨info, hl hinfo, hviews⟩
    · have hd := nodup_of_taken took
      exact ⟨_, hjoined.framebuffer, Pass.nodup_viewsOf (Reached.sound hs) hd hparts⟩
  | refused hs hrefused ih =>
    have hl := (Reached.suffix hs (settle_of_error hrefused)).subset
    have hleaves : Left _ _ := meets_updates.error ⟨rfl, trivial⟩ hrefused
    obtain ⟨info, hinfo, hviews⟩ := ih (hleaves.passes ▸ hp)
    exact ⟨info, hl hinfo, hviews⟩
  | between _ done ih => cases done <;> exact ih hp

theorem Reached.bindsOnce (hs : Reached l s) (hp : s.1.passes.get? q = some p) :
    p.BindsOnce s.2.driver.calls := by
  obtain ⟨info, hinfo, hviews⟩ := hs.nodup_views hp
  obtain ⟨d, parts, hformed⟩ := (Reached.evident hs).passes hp
  obtain ⟨limit, hvalid⟩ := hformed.valid
  refine ⟨hformed.made.textures ▸ PassDesc.nodup_of_validate hvalid, info, ?_, hviews⟩
  exact (Books.fair (Reached.sound hs).2).of?_eq_some_iff.2 hinfo

end Device

end Vulkan

/-! ### Both devices -/

namespace GraphicsDevice

/-- **No texture is bound twice, and the check names the first that would be.** It is found in a
description if and only if there is one, and neither device ever makes a pass with one. -/
theorem attachments_distinct :
    (∀ (p : PassDesc) (limit : UInt32), p.colors ≠ [] → p.colors.length ≤ limit.toNat →
      p.FindsShared limit) ∧
    (∀ l (s : Recorder × Log.Journal), Recorder.Reached l s →
      (∀ d a, (.createPass d, a) ∈ l → d.textures.Nodup) ∧
      ∀ q d, s.1.passes.get? q = some d → d.textures.Nodup) ∧
    ∀ l (s : Vulkan.Device × Vulkan.Host), Vulkan.Device.Reached l s →
      (∀ d a, (.createPass d, a) ∈ l → d.textures.Nodup) ∧
      ∀ q p, s.1.passes.get? q = some p → p.BindsOnce s.2.driver.calls := by
  refine ⟨fun p limit ↦ PassDesc.findsShared,
    fun l s hs ↦ ⟨fun d a hd ↦ ?_, fun q d ↦ hs.nodup_textures⟩,
    fun l s hs ↦ ⟨fun d a hd ↦ ?_, fun q p ↦ Vulkan.Device.Reached.bindsOnce hs⟩⟩
  · obtain ⟨_, _, _, -, took⟩ := hs.exists_taken hd
    exact Recorder.nodup_of_taken took
  · obtain ⟨_, _, _, -, took⟩ := hs.exists_taken hd
    exact Vulkan.Device.nodup_of_taken took

/-- Of three attachments the last repeats the first, and both devices make a pass of two. -/
theorem attachments_distinct_colorsPass :
    let shared : PassDesc := .ofTargets [⟨1, 1⟩, ⟨2, 1⟩, ⟨1, 1⟩] none
    (shared.colors ≠ [] ∧ shared.colors.length ≤ (4 : UInt32).toNat ∧
      FirstRepeat shared.textures 0 2) ∧
    (∃ q d l, ∃ s : Recorder × Log.Journal, Recorder.Reached l s ∧
      (.createPass d, some (.pass q)) ∈ l ∧ s.1.passes.get? q = some d ∧ d.textures.Nodup) ∧
    ∃ q d p l, ∃ s : Vulkan.Device × Vulkan.Host, Vulkan.Device.Reached l s ∧
      (.createPass d, some (.pass q)) ∈ l ∧ d.textures.Nodup ∧
      s.1.passes.get? q = some p ∧ p.BindsOnce s.2.driver.calls := by
  intro shared
  refine ⟨⟨by decide, by decide, ?_⟩, ?_, ?_⟩
  · refine ((attachments_distinct.1 shared 4 (by decide) (by decide)).names 0 2).1 ?_
    exact ⟨.sharedTexture 0 2, by decide, PassDefect.message_pass_eq_iff.2 rfl⟩
  · obtain ⟨l, s, q, u, hs, -, -, hu⟩ := exists_recorder (twoTextures 4 1)
      (createPass colorsPass) (fun _ ↦ true) (by decide +kernel)
    have hmade := hs.taken (answer_createPass hu)
    have hmem : (.createPass colorsPass, some (.pass q)) ∈ l ++ [_] :=
      List.mem_append_right l (List.mem_singleton_self _)
    have hd := ((Recorder.makes_createPass colorsPass s.1).ok rfl hu).2
    exact ⟨q, _, _, u, hmade, hmem, hd, (attachments_distinct.2.1 _ u hmade).2 q _ hd⟩
  · obtain ⟨l, s, q, u, hs, -, -, hu⟩ := exists_device (twoTextures 4 1)
      (createPass colorsPass) (fun _ ↦ true)
      (Vulkan.Device.exists_new Vulkan.Device.plainSurface [] _ (by decide +kernel))
    have hmade := hs.taken (answer_createPass hu)
    have hmem : (.createPass colorsPass, some (.pass q)) ∈ l ++ [_] :=
      List.mem_append_right l (List.mem_singleton_self _)
    obtain ⟨hhistory, hpasses⟩ := attachments_distinct.2.2 _ u hmade
    obtain ⟨p, -, hp, -⟩ := Vulkan.Device.joins_of_createPass hs hu
    exact ⟨q, _, p, _, u, hmade, hmem, hhistory _ _ hmem, hp, hpasses q p hp⟩

end GraphicsDevice

end RenderTargets
