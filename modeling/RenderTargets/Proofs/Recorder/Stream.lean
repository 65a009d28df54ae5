import RenderTargets.Proofs.Recorder.Accepts
/-!
# The stream of a recorder

What a recorder has recorded reads as

    (begin (viewport | draw state | uniforms | draw | fill)* end | commit)*  (begin (…)*)?

with uniforms and draws only after a draw state of the same pass. The grammar is in the **types**: a
`Body` carries the proof that its commands belong inside of a pass and that every draw has its
state, so a `Stream` is well formed as it stands, and that a log is one is said by `Stream.commands`
alone.

A log has at most one reading as a stream with something unfinished or without, because the passes
that begin and those that end can be counted (`Stream.isSome_unfinished_iff`).

## Sessions

`Session` is a recorder in use: with the commands that were taken away from it put back, and with a
history that keeps with every recorded command the recorder **as it was then**. Handles can be
handed out again, so what a command of the log meant is only known from its moment.
-/

namespace RenderTargets

namespace Command

/-- The command stands inside of a pass. -/
def IsInside : Command → Prop
  | viewport .. | drawState _ | uniforms .. | draw _ | fillRects .. => True
  | _ => False

/-- The command needs a draw state. -/
def NeedsState : Command → Prop
  | uniforms .. | draw _ => True
  | _ => False

/-- A pass begins. -/
def isBegin : Command → Bool
  | beginPass .. => true
  | _ => false

end Command

namespace Recorder

open Log StepWith

/-! ### The grammar -/

/-- Commands of one pass. -/
structure Body where
  /-- The commands, the first one first. -/
  commands : List Command
  /-- They belong inside of a pass. -/
  inside : ∀ c ∈ commands, c.IsInside
  /-- What needs a draw state comes after one. -/
  bound : ∀ before c after, commands = before ++ c :: after → c.NeedsState →
    ∃ state, .drawState state ∈ before

namespace Body

/-- No commands. -/
def empty : Body := ⟨[], nofun, fun before _ _ h ↦ by cases before <;> cases h⟩

/-- A draw state was bound. -/
def HasState (b : Body) : Prop := ∃ state, .drawState state ∈ b.commands

/-- One more command. -/
def push (b : Body) (c : Command) (hc : c.IsInside) (hs : c.NeedsState → b.HasState) : Body where
  commands := b.commands ++ [c]
  inside := by
    intro d hd
    rcases List.mem_append.1 hd with hd | hd
    · exact b.inside d hd
    · rwa [List.mem_singleton.1 hd]
  bound before d after h hd := by
    rcases List.eq_nil_or_concat after with rfl | ⟨after, last, rfl⟩
    · obtain ⟨rfl, hcd⟩ := List.append_inj' h rfl
      rw [List.cons.injEq] at hcd
      exact hs (hcd.1 ▸ hd)
    · rw [List.concat_eq_append, ← List.cons_append, ← List.append_assoc] at h
      exact b.bound before d after (List.append_inj' h rfl).1 hd

end Body

/-- A pass from its begin on. -/
structure PassRecord where
  /-- The pass, or none for the screen. -/
  pass : Option PassId
  /-- The color of each attachment. -/
  colors : List Vec4
  /-- What was recorded since. -/
  body : Body

/-- The commands of a pass without its end. -/
def PassRecord.commands (p : PassRecord) : List Command :=
  .beginPass p.pass p.colors :: p.body.commands

/-- What a stream is made of. -/
inductive Phrase where
  /-- A pass that ended. -/
  | pass (p : PassRecord)
  /-- A frame was committed. -/
  | commit

/-- The commands of a phrase. -/
def Phrase.commands : Phrase → List Command
  | pass p => p.commands ++ [.endPass]
  | commit => [.commitFrame]

/-- A stream of commands. -/
structure Stream where
  /-- What is finished. -/
  phrases : List Phrase
  /-- The pass that is being recorded. -/
  unfinished : Option PassRecord

namespace Stream

variable (s : Stream)

/-- All commands of a stream. -/
def commands : List Command :=
  s.phrases.flatMap Phrase.commands ++ s.unfinished.elim [] PassRecord.commands

/-- Nothing is finished or begun. -/
def empty : Stream := ⟨[], none⟩

end Stream

/-! ### Counting -/

section Counting

variable {p : Command → Bool}

/-- A body has none of the commands that do not belong inside of a pass. -/
theorem Body.countP_eq_zero (b : Body) (hp : ∀ c, p c → ¬c.IsInside) : b.commands.countP p = 0 :=
  List.countP_eq_zero.2 fun c hc h ↦ hp c h (b.inside c hc)

theorem PassRecord.countP_commands (q : PassRecord) (hp : ∀ c, p c → ¬c.IsInside) :
    q.commands.countP p = if p (.beginPass q.pass q.colors) then 1 else 0 := by
  rw [PassRecord.commands, List.countP_cons, q.body.countP_eq_zero hp, Nat.zero_add]

theorem Phrase.countP_pass (q : PassRecord) (hp : ∀ c, p c → ¬c.IsInside) :
    (Phrase.pass q).commands.countP p =
      (if p (.beginPass q.pass q.colors) then 1 else 0) + if p .endPass then 1 else 0 := by
  rw [Phrase.commands, List.countP_append, q.countP_commands hp, List.countP_singleton]

theorem Stream.countP_commands (s : Stream) :
    s.commands.countP p = (s.phrases.flatMap Phrase.commands).countP p +
      s.unfinished.elim 0 fun q ↦ q.commands.countP p := by
  rw [commands, List.countP_append]
  cases s.unfinished <;> rfl

end Counting

namespace Stream

variable {s s' : Stream}

/-- Something is unfinished when more passes began than ended. -/
theorem isSome_unfinished_iff : s.unfinished.isSome ↔
    s.commands.countP (· == .endPass) < s.commands.countP Command.isBegin := by
  have hbegin : ∀ c : Command, c.isBegin → ¬c.IsInside := by
    intro c
    cases c <;> simp [Command.isBegin, Command.IsInside]
  have hend : ∀ c : Command, (c == .endPass) → ¬c.IsInside := by
    intro c hc
    rw [beq_iff_eq.1 hc]
    exact id
  have hsame : (s.phrases.flatMap Phrase.commands).countP Command.isBegin =
      (s.phrases.flatMap Phrase.commands).countP (· == .endPass) := by
    rw [List.countP_flatMap, List.countP_flatMap]
    refine congrArg List.sum (List.map_congr_left fun φ _ ↦ ?_)
    simp only [Function.comp_apply]
    cases φ with
    | pass q => rw [Phrase.countP_pass q hbegin, Phrase.countP_pass q hend]; rfl
    | commit => rfl
  rw [countP_commands, countP_commands, hsame, Nat.add_lt_add_iff_left]
  cases s.unfinished with
  | none => simp
  | some q => simp [q.countP_commands hbegin, q.countP_commands hend, Command.isBegin]

/-- Whether something is unfinished does not depend on how the commands are read. -/
theorem isSome_unfinished_congr (h : s.commands = s'.commands) :
    s.unfinished.isSome ↔ s'.unfinished.isSome := by
  rw [isSome_unfinished_iff, isSome_unfinished_iff, h]

end Stream

/-! ### What a command does to the stream -/

/-- The commands that were recorded between `r` and `r'`. -/
def added (r r' : Recorder) : List Command := r'.commands.drop r.commands.length

/-- What becomes of the pass and the frames while commands are recorded. -/
inductive Moves (r r' : Recorder) : List Command → Prop
  /-- Nothing was recorded. -/
  | still (active : r'.active = r.active) (frames : r'.frames = r.frames) : Moves r r' []
  /-- A pass began, with a color for each of its attachments. -/
  | begins {pass colors a} (idle : r.active = none) (active : r'.active = some a)
      (bare : a.drawState = none) (frames : r'.frames = r.frames)
      (fit : ∀ id, pass = some id →
        ∃ d, r.passes.get? id = some d ∧ colors.length = d.colors.length) :
      Moves r r' [.beginPass pass colors]
  /-- Something happened inside of the pass. -/
  | inside {c a a'} (isInside : c.IsInside) (before : r.active = some a)
      (active : r'.active = some a') (needs : c.NeedsState → a.drawState.isSome)
      (bound : a'.drawState.isSome → a.drawState.isSome ∨ ∃ state, c = .drawState state)
      (frames : r'.frames = r.frames) : Moves r r' [c]
  /-- The pass ended. -/
  | ends {a} (before : r.active = some a) (active : r'.active = none)
      (frames : r'.frames = r.frames) : Moves r r' [.endPass]
  /-- A frame was committed. -/
  | commits (idle : r.active = none) (active : r'.active = none)
      (frames : r'.frames = r.frames + 1) : Moves r r' [.commitFrame]

variable {r r' : Recorder}

/-- A pass begins without a draw state and with a color for each of its attachments. -/
theorem begins_spec {pass : Option PassId} {action : PassAction} {a : ActivePass}
    {colors : List Vec4} (h : r.begins pass action = .ok (a, colors)) :
    a.drawState = none ∧ ∀ id, pass = some id →
      ∃ d, r.passes.get? id = some d ∧ colors.length = d.colors.length := by
  cases pass with
  | none =>
    cases h
    exact ⟨rfl, nofun⟩
  | some id =>
    obtain ⟨d, _, _, _, hd, -, -, hp⟩ := beginOffscreen_eq_ok_iff.1 h
    cases hp
    refine ⟨rfl, ?_⟩
    rintro _ ⟨⟩
    exact ⟨d, hd, by simp [PassDesc.clearColors]⟩

theorem Accepts.moves {c : GraphicsDevice.Command} {answer : Option ResourceId}
    (h : r.Accepts c answer r') : ∃ new, r'.commands = r.commands ++ new ∧ r.Moves r' new := by
  cases h with
  | createTexture | createMesh | createShader | createPipeline | createPass | requestQuit =>
    exact ⟨[], by simp, .still rfl rfl⟩
  | destroy hr =>
    rw [remove?_frame hr]
    exact ⟨[], by simp, .still rfl rfl⟩
  | beginPass hidle hb =>
    obtain ⟨hbare, hfit⟩ := begins_spec hb
    exact ⟨_, rfl, .begins hidle rfl hbare rfl hfit⟩
  | applyViewport ha | fillRects ha => exact ⟨_, rfl, .inside trivial ha ha nofun .inl rfl⟩
  | applyDrawState ha => exact ⟨_, rfl, .inside trivial ha rfl nofun (fun _ ↦ .inr ⟨_, rfl⟩) rfl⟩
  | applyUniforms ha hb => exact ⟨_, rfl, .inside trivial ha ha (fun _ ↦ hb) .inl rfl⟩
  | draw ha hb =>
    exact ⟨_, rfl, .inside trivial ha ha (fun _ ↦ Option.isSome_of_eq_some hb) .inl rfl⟩
  | endPass ha => exact ⟨_, rfl, .ends ha rfl rfl⟩
  | commitFrame hidle => exact ⟨_, rfl, .commits hidle hidle rfl⟩

/-! ### Streams of recorders -/

/-- The stream fits a recorder: the same pass is open in both. -/
def Stream.Fits (s : Stream) (r : Recorder) : Prop :=
  Option.Rel (fun p a ↦ a.drawState.isSome → p.body.HasState) s.unfinished r.active

theorem Stream.Fits.isSome_eq {s : Stream} (h : s.Fits r) :
    s.unfinished.isSome = r.active.isSome := by
  rw [Stream.Fits] at h
  generalize s.unfinished = p at h
  generalize r.active = a at h
  cases h <;> rfl

theorem Moves.fits {new : List Command} (h : r.Moves r' new) {s : Stream} (hs : s.Fits r) :
    ∃ s' : Stream, s'.commands = s.commands ++ new ∧ s'.Fits r' := by
  obtain ⟨phrases, unfinished⟩ := s
  rw [Stream.Fits] at hs
  cases h with
  | still hactive =>
    exact ⟨⟨phrases, unfinished⟩, (List.append_nil _).symm, by rwa [Stream.Fits, hactive]⟩
  | @begins pass colors a hidle hactive hbare =>
    rw [hidle] at hs
    cases hs
    refine ⟨⟨phrases, some ⟨pass, colors, .empty⟩⟩, ?_, ?_⟩
    · simp [Stream.commands, PassRecord.commands, Body.empty]
    · rw [Stream.Fits, hactive]
      exact .some (by simp [hbare])
  | @inside c a a' hin hbefore hactive hneeds hbound =>
    rw [hbefore] at hs
    cases hs with
    | @some p _ hp =>
      refine ⟨⟨phrases, some { p with body := p.body.push c hin fun h ↦ hp (hneeds h) }⟩, ?_, ?_⟩
      · simp [Stream.commands, PassRecord.commands, Body.push]
      · rw [Stream.Fits, hactive]
        refine .some fun ha ↦ ?_
        rcases hbound ha with ha | ⟨state, rfl⟩
        · obtain ⟨state, hstate⟩ := hp ha
          exact ⟨state, List.mem_append_left _ hstate⟩
        · exact ⟨state, List.mem_append_right _ (List.mem_singleton_self _)⟩
  | ends hbefore hactive =>
    rw [hbefore] at hs
    cases hs with
    | @some p _ hp =>
      refine ⟨⟨phrases ++ [.pass p], none⟩, ?_, ?_⟩
      · simp [Stream.commands, Phrase.commands]
      · rw [Stream.Fits, hactive]
        exact .none
  | commits hidle hactive =>
    rw [hidle] at hs
    cases hs
    refine ⟨⟨phrases ++ [.commit], none⟩, ?_, ?_⟩
    · simp [Stream.commands, Phrase.commands]
    · rw [Stream.Fits, hactive]
      exact .none

theorem Moves.frames_eq {new : List Command} (h : r.Moves r' new) :
    r'.frames = r.frames + new.count .commitFrame := by
  cases h with
  | still _ hf | begins _ _ _ hf | ends _ _ hf | commits _ _ hf => simpa using hf
  | @inside c _ _ hin _ _ _ _ hf =>
    have hc : c ≠ .commitFrame := by
      rintro rfl
      exact hin
    simpa [List.count_singleton, hc] using hf

theorem Moves.colors {new : List Command} (h : r.Moves r' new) {id : PassId}
    {colors : List Vec4} (hc : .beginPass (some id) colors ∈ new) :
    ∃ d, r.passes.get? id = some d ∧ colors.length = d.colors.length := by
  cases h with
  | still | ends | commits => simp at hc
  | begins _ _ _ _ hfit =>
    cases List.mem_singleton.1 hc
    exact hfit id rfl
  | inside hin =>
    rw [← List.mem_singleton.1 hc] at hin
    exact hin.elim

/-! ### Sessions -/

/-- A recorder in use. -/
structure Session where
  /-- The recorder. -/
  recorder : Recorder
  /-- Its journal. -/
  journal : Journal
  /-- The commands that were taken away from it, the oldest first. -/
  taken : List Command := []
  /-- All commands ever recorded, each with the recorder before it, the oldest first. -/
  history : List (Recorder × Command) := []

namespace Session

/-- All commands, with those that were taken away put back. -/
def log (s : Session) : List Command := s.taken ++ s.recorder.commands

/-- The recorder and its journal as part of a session that keeps the history. -/
def device : Lens Session (Recorder × Journal) where
  get s := (s.recorder, s.journal)
  set d s :=
    { s with
      recorder := d.1
      journal := d.2
      history := s.history ++
        (s.recorder.added d.1).map fun c ↦ (s.recorder, c) }

/-- What is done with a recorder. -/
inductive Use where
  /-- A command is given to it. -/
  | command (c : GraphicsDevice.Command)
  /-- Its commands are taken away. -/
  | take

/-- The step of a use. -/
def Use.perform : Use → Step Session (Option ResourceId)
  | command c => within device c.answer
  | take => do
    modify fun s ↦
      { s with
        taken := s.taken ++ s.recorder.takeCommands.1,
        recorder := s.recorder.takeCommands.2 }
    return none

/-- Where uses leave a session, unless one of them traps. -/
def run (uses : List Use) : Session → Option Session := settleAll (uses.map Use.perform)

/-! ### Every session -/

/-- The commands of a session are those of a stream, and the recorder agrees with it. -/
structure Sound (s : Session) : Prop where
  /-- The commands read as a stream that is unfinished where the recorder is in a pass. -/
  stream : ∃ stream : Stream, stream.commands = s.log ∧ stream.Fits s.recorder
  /-- A frame was committed for each commit. -/
  frames : s.log.count .commitFrame = s.recorder.frames
  /-- The history is that of the commands. -/
  history : s.history.map Prod.snd = s.log
  /-- A pass began with a color for each of its attachments. -/
  colors : ∀ r id colors, (r, .beginPass (some id) colors) ∈ s.history →
    ∃ d, r.passes.get? id = some d ∧ colors.length = d.colors.length

/-- What a move adds keeps the session sound. -/
theorem Sound.of_moves {s : Session} (hs : s.Sound) {r' : Recorder} {j' : Journal}
    {new : List Command} (hnew : r'.commands = s.recorder.commands ++ new)
    (h : s.recorder.Moves r' new) : (device.set (r', j') s).Sound := by
  have hadded : s.recorder.added r' = new := by rw [added, hnew, List.drop_left]
  have hlog : (device.set (r', j') s).log = s.log ++ new := by
    simp only [log, device, hnew, List.append_assoc]
  have hhistory : (device.set (r', j') s).history = s.history ++ new.map (s.recorder, ·) := by
    simp only [device, hadded]
  obtain ⟨stream, hstream, hfits⟩ := hs.stream
  obtain ⟨stream', hstream', hfits'⟩ := h.fits hfits
  refine ⟨⟨stream', ?_, hfits'⟩, ?_, ?_, ?_⟩
  · rw [hstream', hstream, hlog]
  · rw [hlog, List.count_append, hs.frames]
    exact h.frames_eq.symm
  · rw [hhistory, hlog, List.map_append, hs.history, List.map_map]
    exact congrArg _ (List.map_id new)
  · intro r id colors hmem
    rw [hhistory, List.mem_append] at hmem
    rcases hmem with hmem | hmem
    · exact hs.colors r id colors hmem
    · obtain ⟨c, hc, heq⟩ := List.mem_map.1 hmem
      cases heq
      exact h.colors hc

theorem keeps_perform (u : Use) : Keeps Sound u.perform := by
  cases u with
  | command c =>
    refine .within fun s hs ↦ ?_
    rintro _ rfl
    rcases hx : c.answer (device.get s) with ⟨a, t⟩ | ⟨e | _, t⟩
    · obtain ⟨r', hr, rfl⟩ := answer_ok_iff.1 hx
      obtain ⟨new, hnew, hmoves⟩ := hr.moves
      exact hs.of_moves hnew hmoves
    · obtain ⟨r', j'⟩ := t
      have hsame : r' = s.recorder := answer_error hx
      exact hs.of_moves (by rw [hsame, List.append_nil]) (.still (by rw [hsame]) (by rw [hsame]))
    · trivial
  | take =>
    refine Meets.bind (Meets.update fun s hs ↦ ?_) fun _ ↦ .pure fun _ h ↦ h
    have hlog (r : Recorder) (taken : List Command) (history) :
        (Session.mk r.takeCommands.2 s.journal (taken ++ r.takeCommands.1) history).log =
          taken ++ r.commands := List.append_nil _
    refine ⟨?_, ?_, ?_, hs.colors⟩ <;> rw [hlog]
    · exact hs.stream
    · exact hs.frames
    · exact hs.history

/-- A recorder that was not used yet. -/
def new (features : Features) (maxColors : UInt32) (display : Display)
    (failAt : Option (ResourceKind × Nat)) (quitAfter : Option Nat) (journal : Journal) : Session :=
  { recorder := fresh features maxColors display failAt quitAfter, journal }

theorem sound_new (features : Features) (maxColors : UInt32) (display : Display)
    (failAt : Option (ResourceKind × Nat)) (quitAfter : Option Nat) (journal : Journal) :
    (new features maxColors display failAt quitAfter journal).Sound where
  stream := ⟨.empty, rfl, .none⟩
  frames := rfl
  history := rfl
  colors _ _ _ h := absurd h List.not_mem_nil

/-- **Recorders record streams.** Whatever is done with a recorder, its commands, with those taken
away put back, read as a stream, and any such reading is unfinished exactly when the recorder is in
a pass. There is a commit for each frame, and a pass into textures began with one color for each
attachment that the pass had then. -/
theorem run_stream (features : Features) (maxColors : UInt32) (display : Display)
    (failAt : Option (ResourceKind × Nat)) (quitAfter : Option Nat) (journal : Journal)
    (uses : List Use) {s : Session}
    (h : run uses (new features maxColors display failAt quitAfter journal) = some s) :
    (∃ stream : Stream, stream.commands = s.log) ∧
      (∀ stream : Stream, stream.commands = s.log →
        (stream.unfinished.isSome ↔ s.recorder.active.isSome)) ∧
      s.log.count .commitFrame = s.recorder.frames ∧
      s.history.map Prod.snd = s.log ∧
      ∀ r id colors, (r, .beginPass (some id) colors) ∈ s.history →
        ∃ d, r.passes.get? id = some d ∧ colors.length = d.colors.length := by
  have hs : s.Sound := Keeps.settleAll (fun x hx ↦ by
    obtain ⟨u, -, rfl⟩ := List.mem_map.1 hx
    exact keeps_perform u) (sound_new ..) h
  obtain ⟨stream, hstream, hfits⟩ := hs.stream
  refine ⟨⟨stream, hstream⟩, fun other hother ↦ ?_, hs.frames, hs.history, hs.colors⟩
  rw [Stream.isSome_unfinished_congr (hother.trans hstream.symm), hfits.isSome_eq]

/-- A pass into a texture that is released meanwhile, with a draw that is refused; then the commands
are taken away and a pass into the screen is left open. -/
theorem run_stream_taken :
    ∃ s, run [.command (.createTexture (.renderTarget 4 4)),
        .command (.createPass (.ofTargets [⟨1, 1⟩] none)),
        .command (.beginPass (some ⟨1, 1⟩) {}), .command (.destroy (.texture ⟨1, 1⟩)),
        .command (.draw 0), .command .endPass, .command .commitFrame, .take,
        .command (.beginPass none {}), .command (.fillRects .black [])]
        (new .every 4 ⟨640, 480, .bgra8Srgb, none, 1⟩ none none {}) = some s ∧
      s.recorder.commands = [.beginPass none [.black], .fillRects .black []] ∧
      s.log = [.beginPass (some ⟨1, 1⟩) [.black], .endPass, .commitFrame] ++ s.recorder.commands ∧
      ∀ stream : Stream, stream.commands = s.log → stream.unfinished.isSome := by
  have hend : (run [.command (.createTexture (.renderTarget 4 4)),
      .command (.createPass (.ofTargets [⟨1, 1⟩] none)),
      .command (.beginPass (some ⟨1, 1⟩) {}), .command (.destroy (.texture ⟨1, 1⟩)),
      .command (.draw 0), .command .endPass, .command .commitFrame, .take,
      .command (.beginPass none {}), .command (.fillRects .black [])]
      (new .every 4 ⟨640, 480, .bgra8Srgb, none, 1⟩ none none {})).any (fun s ↦
        s.recorder.commands == [.beginPass none [.black], .fillRects .black []] &&
        s.taken == [.beginPass (some ⟨1, 1⟩) [.black], .endPass, .commitFrame] &&
        s.recorder.active.isSome) := by
    decide +kernel
  obtain ⟨s, hrun, hs⟩ := (Option.any_eq_true _ _).1 hend
  simp only [Bool.and_eq_true, beq_iff_eq] at hs
  obtain ⟨⟨hcommands, htaken⟩, hactive⟩ := hs
  refine ⟨s, hrun, hcommands, by rw [log, htaken], fun stream hstream ↦ ?_⟩
  exact ((run_stream _ _ _ _ _ _ _ hrun).2.1 stream hstream).2 hactive

end Session

end Recorder

end RenderTargets
