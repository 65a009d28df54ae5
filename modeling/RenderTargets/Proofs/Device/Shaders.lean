import RenderTargets.Proofs.Lists
import RenderTargets.Proofs.Number.Word
import RenderTargets.Proofs.Vulkan.Steps
import RenderTargets.Recorder.Commands
import RenderTargets.Vulkan.Device.Commands
/-!
# Code that can be decoded

A module of code is given as bytes and read as words. Words and bytes are the same thing written
down in two ways: a module is read as some words exactly if the first of them is the magic word and
its bytes are theirs (`ModuleDesc.words_eq_ok_iff`). So the modules that can be read are those with
whole words and the bytes of the magic word in front (`ModuleDesc.IsDecodable`).

A shader has two modules, and what is wrong with it is what is wrong with the first one that cannot
be read (`ShaderDesc.FailsAt`). The description is checked before anything else is done with it, on
the recorder and on a Vulkan device, so that both refuse it for the same and are left as they were.
After that check the code is read once more on a Vulkan device, but that is known to work by then:
every error from there on is one of the backend (`GraphicsDevice.JudgesShaders`).
-/

namespace RenderTargets

open StepWith

/-! ### Words of modules -/

theorem wordsOfBytes_flatMap_bytes (words : List UInt32) :
    wordsOfBytes (words.flatMap Word.bytes) = words := by
  induction words with
  | nil => rfl
  | cons w rest ih =>
    rw [List.flatMap_cons, Word.bytes, List.cons_append, List.cons_append, List.cons_append,
      List.cons_append, List.nil_append, wordsOfBytes, Word.ofBytes_bytes, ih]

theorem flatMap_bytes_wordsOfBytes {code : List UInt8} (h : code.length % 4 = 0) :
    (wordsOfBytes code).flatMap Word.bytes = code := by
  fun_induction wordsOfBytes code with
  | case1 a b c d rest ih =>
    have hrest : rest.length % 4 = 0 := by
      simp only [List.length_cons] at h
      omega
    rw [List.flatMap_cons, Word.bytes_ofBytes, ih hrest]
    rfl
  | case2 code hshort =>
    -- What is left of whole words is not one to three bytes.
    match code with
    | [] => rfl
    | [_] | [_, _] | [_, _, _] => simp at h
    | a :: b :: c :: d :: rest => exact absurd rfl (hshort a b c d rest)

theorem length_flatMap_bytes (words : List UInt32) :
    (words.flatMap Word.bytes).length = words.length * 4 :=
  length_flatMap_of_length_eq fun _ _ ↦ rfl

namespace ModuleDesc

variable {m : ModuleDesc} {words : List UInt32}

/-- The module is read as some words exactly if they begin with the magic word and have the bytes of
the module. -/
theorem words_eq_ok_iff :
    m.words = .ok words ↔ words.head? = some spirvMagic ∧ words.flatMap Word.bytes = m.code := by
  rw [ModuleDesc.words]
  constructor
  · intro h
    split at h
    · cases h
    next hsize =>
    rw [not_or, not_not] at hsize
    split at h
    · cases h
    next w rest hcode =>
    split at h
    · next hmagic =>
      cases h
      exact ⟨congrArg some hmagic, hcode ▸ flatMap_bytes_wordsOfBytes hsize.2⟩
    · cases h
  · rintro ⟨hhead, hcode⟩
    obtain ⟨rest, rfl⟩ := List.head?_eq_some_iff.1 hhead
    have hlength := length_flatMap_bytes (spirvMagic :: rest)
    rw [List.length_cons] at hlength
    rw [← hcode, wordsOfBytes_flatMap_bytes, if_neg (by omega)]
    exact if_pos rfl

/-- The module has whole words, and the bytes of the magic word in front. -/
structure IsDecodable (m : ModuleDesc) : Prop where
  /-- There is code. -/
  size_ne_zero : m.code.length ≠ 0
  /-- It is whole words. -/
  size : m.code.length % 4 = 0
  /-- The first word is the magic word, with its last byte first. -/
  magic : m.code.take 4 = [0x03, 0x02, 0x23, 0x07]

/-- The modules that can be read are those with the right size and the right first word. -/
theorem exists_words_iff : (∃ words, m.words = .ok words) ↔ m.IsDecodable := by
  simp only [words_eq_ok_iff]
  constructor
  · rintro ⟨words, hhead, hcode⟩
    obtain ⟨rest, rfl⟩ := List.head?_eq_some_iff.1 hhead
    have hlength := length_flatMap_bytes (spirvMagic :: rest)
    rw [hcode, List.length_cons] at hlength
    exact ⟨by omega, by omega, hcode ▸ rfl⟩
  · rintro ⟨-, hsize, hmagic⟩
    refine ⟨wordsOfBytes m.code, ?_, flatMap_bytes_wordsOfBytes hsize⟩
    rw [← List.take_append_drop 4 m.code, hmagic]
    rfl

end ModuleDesc

namespace ShaderDesc

variable {d : ShaderDesc} {e : ShaderDefect}

/-- The defect is that of the first stage that cannot be read. -/
structure FailsAt (d : ShaderDesc) (e : ShaderDefect) : Prop where
  /-- The stage cannot be read, and that is why. -/
  words : (d.module e.stage).words = .error e.code
  /-- The stage before it can. -/
  first : e.stage = .fragment → d.vertex.IsDecodable

/-- The check of a shader finds what is wrong with the first stage that cannot be read. -/
theorem validate_eq_error_iff : d.validate = .error e ↔ d.FailsAt e := by
  obtain ⟨stage, code⟩ := e
  rw [validate, checkStage, checkStage, module, module]
  rcases hvertex : d.vertex.words with c | words
  · constructor
    · rintro ⟨⟩
      exact ⟨hvertex, nofun⟩
    · rintro ⟨hwords, hfirst⟩
      cases stage with
      | vertex =>
        cases hvertex.symm.trans hwords
        rfl
      | fragment =>
        obtain ⟨words, hwords⟩ := ModuleDesc.exists_words_iff.2 (hfirst rfl)
        cases hvertex.symm.trans hwords
  · have hdecodable := ModuleDesc.exists_words_iff.1 ⟨words, hvertex⟩
    constructor
    · intro h
      rcases hfragment : d.fragment.words with c | words <;> rw [hfragment] at h <;> cases h
      exact ⟨hfragment, fun _ ↦ hdecodable⟩
    · rintro ⟨hwords, -⟩
      cases stage with
      | vertex => cases hvertex.symm.trans hwords
      | fragment =>
        rw [show d.fragment.words = .error code from hwords]
        rfl

/-- The check is passed exactly if both stages can be read. -/
theorem validate_eq_ok_iff :
    d.validate = .ok () ↔ d.vertex.IsDecodable ∧ d.fragment.IsDecodable := by
  rw [← ModuleDesc.exists_words_iff, ← ModuleDesc.exists_words_iff, validate,
    checkStage, checkStage,
    module, module]
  rcases d.vertex.words with c | words
  · exact iff_of_false nofun (by simp)
  · rcases d.fragment.words with c | words'
    · exact iff_of_false nofun (by simp)
    · exact iff_of_true rfl (by simp)

/-- There is something wrong exactly with a shader that has a stage that cannot be read. -/
theorem exists_failsAt_iff :
    (∃ e, d.FailsAt e) ↔ ¬(d.vertex.IsDecodable ∧ d.fragment.IsDecodable) := by
  rw [← validate_eq_ok_iff]
  simp only [← validate_eq_error_iff]
  rcases d.validate with e | ⟨⟩ <;> simp

end ShaderDesc

/-! ### Devices -/

/-- The device refuses the shader for what its first stage that cannot be read fails at, and is then
as it was. Every other error is one of the backend. -/
structure GraphicsDevice.JudgesShader (σ : Type) [GraphicsDevice σ] (d : ShaderDesc) : Prop where
  /-- A stage cannot be read. -/
  refused : ∀ e, d.FailsAt e → ∀ s : σ,
    GraphicsDevice.createShader d s = .error (.error (.invalid (.shader d.name e))) s
  /-- Any error at all. -/
  cause : ∀ (s t : σ) (e : EngineError), GraphicsDevice.createShader d s = .error (.error e) t →
    (∃ x, d.FailsAt x ∧ e = .invalid (.shader d.name x)) ∨ ∃ cause, e = .backend cause

/-- Every error of the step is one of the backend. -/
def FailsInBackend {σ α : Type} (x : Step σ α) : Prop :=
  Meets (fun _ ↦ True) x (fun _ _ ↦ True) fun e _ ↦ ∃ cause, e = .backend cause

namespace FailsInBackend

variable {σ τ α β : Type} {x y : Step σ α}

theorem bind {f : α → Step σ β} (hx : FailsInBackend x) (hf : ∀ a, FailsInBackend (f a)) :
    FailsInBackend (x >>= f) :=
  Meets.bind hx hf

theorem get_bind {f : σ → Step σ β} (hf : ∀ s, FailsInBackend (f s)) :
    FailsInBackend (MonadState.get >>= f) :=
  Meets.get_bind hf

theorem pure {a : α} : FailsInBackend (Pure.pure a : Step σ α) := Meets.pure fun _ _ ↦ trivial

theorem update {f : σ → σ} : FailsInBackend (modify f : Step σ PUnit) :=
  Meets.update fun _ _ ↦ trivial

theorem refuse [Log.HasJournal σ] {source : String} {cause : BackendCause} :
    FailsInBackend (Log.refuse source cause : Step σ α) :=
  Meets.refuse fun _ _ _ ↦ ⟨_, rfl⟩

theorem orTrap {o : Option α} : FailsInBackend (StepWith.orTrap o : Step σ α) :=
  Meets.orTrap fun _ _ _ _ ↦ trivial

theorem ite {c : Prop} [Decidable c] (hx : FailsInBackend x) (hy : FailsInBackend y) :
    FailsInBackend (if c then x else y) :=
  Meets.ite (fun _ ↦ hx) fun _ ↦ hy

theorem undoingOnError {undo : Step σ Unit} (hx : FailsInBackend x) (hu : FailsInBackend undo) :
    FailsInBackend (StepWith.undoingOnError x undo) := by
  refine Meets.undoingOnError hx fun e s he ↦ ?_
  have h := hu s trivial
  rcases hus : undo s with ⟨_, t⟩ | ⟨e' | _, t⟩ <;> rw [hus] at h
  · exact he
  · exact h
  · trivial

theorem snd {x : Step τ α} (hx : FailsInBackend x) :
    FailsInBackend (StepWith.within .snd x : Step (σ × τ) α) :=
  Meets.snd fun _ ↦ hx

end FailsInBackend

/-- A device that checks the description first, and after that has errors of the backend only. -/
theorem GraphicsDevice.JudgesShader.of_validate {σ : Type} [GraphicsDevice σ] {d : ShaderDesc}
    (hrefused : ∀ e, d.validate = .error e → ∀ s : σ,
      GraphicsDevice.createShader d s = .error (.error (.invalid (.shader d.name e))) s)
    (hpassed : d.validate = .ok () →
      FailsInBackend (GraphicsDevice.createShader d : Step σ ShaderId)) : JudgesShader σ d where
  refused e he := hrefused e (ShaderDesc.validate_eq_error_iff.2 he)
  cause s t e hs := by
    rcases hvalid : d.validate with x | ⟨⟩
    · left
      cases hs.symm.trans (hrefused x hvalid s)
      exact ⟨x, ShaderDesc.validate_eq_error_iff.1 hvalid, rfl⟩
    · exact .inr ((hpassed hvalid).error trivial hs)

/-! ### The recorder -/

theorem Recorder.judgesShader (d : ShaderDesc) :
    GraphicsDevice.JudgesShader (Recorder × Log.Journal) d := by
  refine .of_validate (fun e he s ↦ ?_) fun hvalid ↦ ?_
  · have haccept : accept (.shader d.name) d.validate s =
        .error (.error (.invalid (.shader d.name e))) s := by
      rw [accept, he]
      rfl
    exact bind_error haccept
  · have haccept : FailsInBackend (accept (.shader d.name) d.validate) := by
      rw [accept, hvalid]
      exact .pure
    have henroll : FailsInBackend (enroll .shader) :=
      .get_bind fun r ↦ .ite (.bind .refuse fun _ ↦ .update) .update
    refine haccept.bind fun _ ↦ ?_
    refine henroll.bind fun _ ↦ ?_
    refine .get_bind fun r ↦ ?_
    exact .bind .orTrap fun _ ↦ .bind .update fun _ ↦ .pure

/-! ### Vulkan devices -/

namespace Vulkan

variable {ctx : Context}

theorem ShaderModule.failsInBackend_create {shader : String} {stage : ShaderStage} {m : ModuleDesc}
    (h : m.IsDecodable) : FailsInBackend (create ctx shader stage m) := by
  obtain ⟨words, hwords⟩ := ModuleDesc.exists_words_iff.2 h
  have hread : FailsInBackend (readInterface ctx words m.entryPoint) := by
    rw [readInterface]
    split
    · exact .pure
    · exact .refuse
    · exact .trap
  have hwork {action : String} {f : Driver → Except ResultCode (Object .shaderModule) × Driver} :
      FailsInBackend (Run.work action f) := by
    refine .bind (x := Run.driving f) (Run.meets_driving fun _ _ ↦ trivial) fun r ↦ ?_
    cases r with
    | ok a => exact .pure
    | error code => exact .refuse
  rw [create, hwords]
  refine hread.bind fun i ↦ ?_
  exact .ite (.bind .refuse fun _ ↦ hwork.bind fun _ ↦ .pure) (hwork.bind fun _ ↦ .pure)

theorem Shader.failsInBackend_create {d : ShaderDesc} (h : d.validate = .ok ()) :
    FailsInBackend (create ctx d) := by
  obtain ⟨hvertex, hfragment⟩ := ShaderDesc.validate_eq_ok_iff.1 h
  rw [create, h]
  refine (ShaderModule.failsInBackend_create hvertex).bind fun vertex ↦ ?_
  refine ((ShaderModule.failsInBackend_create hfragment).undoingOnError .update).bind
    fun fragment ↦ ?_
  exact .bind .update fun _ ↦ .bind .update fun _ ↦ .pure

theorem failsInBackend_part_bind {α : Type} {f : Device → DeviceStep α}
    (h : ∀ d, FailsInBackend (f d)) : FailsInBackend (RunOn.part >>= f) :=
  fun s hs ↦ h s.1 s hs

theorem Device.judgesShader (d : ShaderDesc) :
    GraphicsDevice.JudgesShader (Device × Host) d := by
  refine .of_validate (fun e he s ↦ ?_) fun hvalid ↦ ?_
  · have hcreate : Shader.create s.1.context d s.2 =
        .error (.error (.invalid (.shader d.name e))) s.2 := by
      rw [Shader.create, he]
      rfl
    exact bind_error (within_error hcreate)
  · show FailsInBackend (createShader d)
    refine failsInBackend_part_bind fun _ ↦ ?_
    refine (Shader.failsInBackend_create hvalid).snd.bind fun shader ↦ ?_
    exact .bind .orTrap fun _ ↦ .bind .update fun _ ↦ .pure

end Vulkan

/-! ### Modules and shaders -/

/-- **Words and bytes are inverse, and every device knows code by them.** A module can be read
exactly if it has whole words and the bytes of the magic word in front; it is read as some words
exactly if they begin with the magic word and have its bytes. A shader is refused exactly if a stage
cannot be read, by the check of its description, by the recorder and by a Vulkan device, from every
state and for the same: what is wrong with the vertex stage, or with the fragment stage if the
vertex stage can be read. -/
theorem words_and_bytes :
    (∀ m : ModuleDesc, ((∃ words, m.words = .ok words) ↔ m.IsDecodable) ∧
      ∀ words, m.words = .ok words ↔
        words.head? = some spirvMagic ∧ words.flatMap Word.bytes = m.code) ∧
    ∀ d : ShaderDesc, ((∃ e, d.FailsAt e) ↔ ¬(d.vertex.IsDecodable ∧ d.fragment.IsDecodable)) ∧
      (∀ e, d.validate = .error e ↔ d.FailsAt e) ∧
      GraphicsDevice.JudgesShader (Recorder × Log.Journal) d ∧
      GraphicsDevice.JudgesShader (Vulkan.Device × Vulkan.Host) d :=
  ⟨fun _ ↦ ⟨ModuleDesc.exists_words_iff, fun _ ↦ ModuleDesc.words_eq_ok_iff⟩,
    fun d ↦ ⟨ShaderDesc.exists_failsAt_iff, fun _ ↦ ShaderDesc.validate_eq_error_iff,
      Recorder.judgesShader d, Vulkan.Device.judgesShader d⟩⟩

/-- Of two stages that cannot be read the vertex stage is named. -/
example : (ShaderDesc.ofCode "short" [3, 2, 35] [3, 2, 35, 8]).validate =
    .error ⟨.vertex, .size 3⟩ :=
  rfl

end RenderTargets
