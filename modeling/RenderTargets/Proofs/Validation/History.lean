import Mathlib.Algebra.BigOperators.Group.Finset.Basic
import Mathlib.Algebra.GroupWithZero.Nat
import RenderTargets.Validation.Messenger
/-!
# Histories of the validation messenger

A history is what happened to a messenger: configurations were installed and taken away, messages
came, and files could be opened at a path from some time on, or could not. Here it is read **the
latest event first**, so what holds "since the last installation" is a recursion on it that stops at
the first `install`.

The messenger keeps its knowledge in three places that are made, reset and forgotten at different
times: the configuration, the counts by weight and the words seen. The history alone says what they
must be. `passing` is the configuration that lets a message through, `counted` the messages let
through since the last installation, and `accepted` every message ever let through, with the
configuration it met, its number among those with the same words, and the file that it was written
to. `Reflects.after` says that the messenger agrees with all three after every history, and that
the console and each file hold what `accepted` asks for.

## Texts

What a message looks like is written out here once more (`Accepted.plain`, `Accepted.painted`), and
what its strings say is a relation on their bytes (`Decodes`), so that nothing is said of the texts
of the messenger in terms of the functions that make them.

A configuration that breaks on errors ends the program at its first one, and with it the history.
-/

namespace RenderTargets.Vulkan.Flags

theorem intersects_or (a b s : Flags) :
    intersects (a ||| b) s = (intersects a s || intersects b s) := by
  have h : (a ||| b) &&& s = a &&& s ||| b &&& s :=
    UInt32.toBitVec_inj.1 (by ext; simp; grind)
  rw [Bool.eq_iff_iff]
  simp only [intersects, h, bne_iff_ne, ne_eq, UInt32.or_eq_zero_iff, Bool.or_eq_true]
  tauto

/-- A single flag meets others if and only if it is one of them. -/
theorem intersects_twoPow {n : Nat} (hn : n < 32) (s : Flags) :
    intersects (.ofBitVec (.twoPow 32 n)) s = contains s (.ofBitVec (.twoPow 32 n)) := by
  have hne : BitVec.twoPow 32 n ≠ 0#32 := fun h ↦ by
    simpa [hn] using congrArg (·.getLsbD n) h
  rw [Bool.eq_iff_iff, intersects, contains, UInt32.and_comm, bne_iff_ne, beq_iff_eq, ne_eq,
    ← UInt32.toBitVec_inj, ← UInt32.toBitVec_inj, UInt32.toBitVec_and, UInt32.toBitVec_ofBitVec,
    BitVec.and_twoPow]
  cases s.toBitVec.getLsbD n with
  | true => simp [hne]
  | false => simp [hne.symm]

end RenderTargets.Vulkan.Flags

namespace RenderTargets.Validation

open Log (Style)
open Vulkan (Flags)

/-! ### Weights -/

namespace Weight

theorem intersects_flag (w : Weight) (s : Flags) :
    Flags.intersects w.flag s = Flags.contains s w.flag := by
  cases w with
  | error => exact Flags.intersects_twoPow (n := 12) (by decide) s
  | warning => exact Flags.intersects_twoPow (n := 8) (by decide) s
  | info => exact Flags.intersects_twoPow (n := 4) (by decide) s
  | verbose => exact Flags.intersects_twoPow (n := 0) (by decide) s

/-- The weight is the highest of those whose flags are among some severity flags. -/
structure IsHighestOf (w : Weight) (s : Flags) : Prop where
  /-- It is one of them. -/
  mem : Flags.contains s w.flag
  /-- None of them is higher. -/
  le : ∀ v ∈ all, Flags.contains s v.flag → v.flag ≤ w.flag

instance (w : Weight) (s : Flags) : Decidable (w.IsHighestOf s) :=
  decidable_of_iff (Flags.contains s w.flag ∧ ∀ v ∈ all, Flags.contains s v.flag → v.flag ≤ w.flag)
    ⟨fun h ↦ ⟨h.1, h.2⟩, fun h ↦ ⟨h.mem, h.le⟩⟩

theorem mem_all (w : Weight) : w ∈ all := by cases w <;> decide

theorem flag_inj {v w : Weight} (h : v.flag = w.flag) : v = w := by
  cases v <;> cases w <;> first | rfl | exact absurd h (by decide)

/-- At most one weight is the highest. -/
theorem IsHighestOf.unique {v w : Weight} {s : Flags} (hv : v.IsHighestOf s)
    (hw : w.IsHighestOf s) : v = w :=
  flag_inj (UInt32.le_antisymm (hw.le v (mem_all v) hv.mem) (hv.le w (mem_all w) hw.mem))

/-- The weight of a message is found from the highest weight down. -/
theorem find?_all (s : Flags) :
    (all.find? fun w ↦ Flags.contains s w.flag).getD verbose = ofFlags s := by
  have hall : all = [error, warning, info] ++ [verbose] := rfl
  rw [ofFlags, hall, List.find?_append]
  cases [error, warning, info].find? fun w ↦ Flags.contains s w.flag with
  | some w => rfl
  | none => cases h : Flags.contains s verbose.flag <;> simp [h]

theorem pairwise_all : all.Pairwise fun v w ↦ w.flag < v.flag := by decide

/-- Where some flag is known, a message weighs as much as the highest of them. -/
theorem isHighestOf_ofFlags {s : Flags} (hs : ∃ v : Weight, Flags.contains s v.flag) :
    (ofFlags s).IsHighestOf s := by
  obtain ⟨v, hv⟩ := hs
  obtain ⟨w, hw⟩ : ∃ w, (all.find? fun w ↦ Flags.contains s w.flag) = some w :=
    Option.isSome_iff_exists.1 (List.find?_isSome.2 ⟨v, mem_all v, hv⟩)
  rw [← find?_all, hw, Option.getD_some]
  obtain ⟨hmem, before, after, hall, hbefore⟩ := List.find?_eq_some_iff_append.1 hw
  refine ⟨hmem, fun u hu hc ↦ ?_⟩
  have hsorted := pairwise_all
  rw [hall] at hu hsorted
  rcases List.mem_append.1 hu with hu | hu
  · exact absurd hc (by simpa using hbefore u hu)
  rcases List.mem_cons.1 hu with rfl | hu
  · exact UInt32.le_refl _
  · exact UInt32.le_of_lt ((List.pairwise_append.1 hsorted).2.1 |> List.rel_of_pairwise_cons <| hu)

/-- The highest of the severities, flag by flag. -/
theorem ofFlags_eq (s : Flags) : ofFlags s =
    if Flags.contains s 0x1000 then error
    else if Flags.contains s 0x100 then warning
    else if Flags.contains s 0x10 then info
    else verbose := by
  simp only [ofFlags, List.find?_cons, List.find?_nil, flag]
  cases Flags.contains s 0x1000 with
  | true => rfl
  | false =>
    cases Flags.contains s 0x100 with
    | true => rfl
    | false => cases Flags.contains s 0x10 <;> rfl

theorem isHighestOf_iff {w : Weight} {s : Flags} (hs : ∃ v : Weight, Flags.contains s v.flag) :
    w.IsHighestOf s ↔ ofFlags s = w :=
  ⟨(isHighestOf_ofFlags hs).unique, fun h ↦ h ▸ isHighestOf_ofFlags hs⟩

end Weight

/-- A level lets a message through if and only if it reports a weight among its flags. -/
theorem Level.intersects_flags (l : Level) (s : Flags) :
    Flags.intersects l.flags s ↔ ∃ w ∈ l.weights, Flags.contains s w.flag := by
  have hfold : ∀ (ws : List Weight) (a : Flags),
      Flags.intersects ((ws.map Weight.flag).foldl (· ||| ·) a) s ↔
        Flags.intersects a s ∨ ∃ w ∈ ws, Flags.contains s w.flag := by
    intro ws
    induction ws with
    | nil => simp
    | cons w ws ih =>
      intro a
      simp [ih, Flags.intersects_or, Weight.intersects_flag, or_assoc]
  rw [Level.flags, hfold]
  simp [Flags.intersects]

/-! ### Strings of the driver -/

/-- What a string of the driver says, where `absent` stands for none. -/
inductive Decodes (absent : String) : DriverString → String → Prop
  /-- There is no string. -/
  | null : Decodes absent none absent
  /-- The bytes before the first zero are those of a text. -/
  | text {bytes : List UInt8} {s : String} (h : s.toUTF8.data.toList = bytes.takeWhile (· != 0)) :
    Decodes absent (some bytes) s
  /-- They are those of no text. -/
  | invalid {bytes : List UInt8}
    (h : ∀ s : String, s.toUTF8.data.toList ≠ bytes.takeWhile (· != 0)) :
    Decodes absent (some bytes) "<invalid UTF-8>"

theorem DriverString.decodes_text (s : DriverString) (absent : String) :
    Decodes absent s (s.text absent) := by
  cases s with
  | none => exact .null
  | some bytes =>
    rw [text, String.fromUTF8?]
    split
    · exact .text rfl
    · next hbytes =>
      refine .invalid fun t ht ↦ hbytes ?_
      rw [← ht]
      exact t.isValidUTF8

/-! ### What happened -/

/-- What happens to a messenger. -/
inductive Event where
  /-- A configuration is installed. -/
  | install (config : Config)
  /-- The configuration is taken away. -/
  | uninstall
  /-- The driver sends a message. -/
  | receive (msg : Message)
  /-- From now on files can be opened at a path, or cannot. -/
  | setOpens (path : String) (opens : Bool)
  deriving DecidableEq, Repr

/-- What the messenger does at an event. -/
def Event.perform : Event → Messenger → Messenger
  | install config, m => m.install config
  | uninstall, m => m.uninstall
  | receive msg, m => m.receive msg
  | setOpens path opens, m => m.setOpens path opens

/-- What happened to a messenger, the latest event first. -/
abbrev History := List Event

/-- The messenger after a history. -/
def Messenger.after (m : Messenger) : History → Messenger
  | [] => m
  | e :: past => e.perform (m.after past)

/-- A message that was let through. -/
structure Accepted where
  /-- Where the configuration sent it. -/
  output : Output
  /-- The message. -/
  message : Message
  /-- How often its words had come by then, itself included. -/
  occurrences : Nat
  /-- The path of the file that it was written to. -/
  file : Option String
  deriving DecidableEq, Repr

namespace Accepted

variable (a : Accepted)

/-- The word for its highest severity. -/
def severityWord : String :=
  if Flags.contains a.message.severity 0x1000 then "ERROR"
  else if Flags.contains a.message.severity 0x100 then "WARNING"
  else if Flags.contains a.message.severity 0x10 then "INFO"
  else "VERBOSE"

/-- How that word looks. -/
def severityStyle : Style :=
  if Flags.contains a.message.severity 0x1000 then ⟨.red, true⟩
  else if Flags.contains a.message.severity 0x100 then ⟨.yellow, true⟩
  else if Flags.contains a.message.severity 0x10 then ⟨.cyan, false⟩
  else ⟨.brightBlack, false⟩

/-- The word for its type. -/
def typeWord : String :=
  if Flags.contains a.message.type 2 then "Validation"
  else if Flags.contains a.message.type 4 then "Performance"
  else "General"

/-- The marker of words that came before. -/
def marker : String := if a.occurrences ≤ 1 then "" else s!" [x{a.occurrences}]"

/-- The entry in a file. -/
def plain : String :=
  s!"[VULKAN {a.severityWord}] [{a.typeWord}]{a.marker}\n  |- Message ID: {a.message.idText}\n" ++
    s!"  `- {a.message.wordsText}\n\n"

/-- The entry on a console. -/
def painted (colors : Bool) : String :=
  let start := Style.paint ⟨.brightBlue, true⟩ colors "[VULKAN"
  let severity := a.severityStyle.paint colors a.severityWord
  let type := Style.paint ⟨.brightBlack, false⟩ colors a.typeWord
  let marker := Style.paint ⟨.yellow, false⟩ colors a.marker
  let label := Style.paint ⟨.brightBlack, false⟩ colors "Message ID"
  let id := Style.paint ⟨.white, false⟩ colors a.message.idText
  let words := Style.paint ⟨.white, false⟩ colors a.message.wordsText
  s!"{start} {severity}] [{type}]{marker}\n  |- {label}: {id}\n  `- {words}\n"

/-- What it adds to the console. -/
def consoleText (colors : Bool) : String :=
  match a.output with
  | .file _ => ""
  | _ => a.painted colors

theorem severityWord_eq : a.severityWord = (Weight.ofFlags a.message.severity).label := by
  rw [Weight.ofFlags_eq, severityWord]
  split_ifs <;> rfl

theorem severityStyle_eq : a.severityStyle = (Weight.ofFlags a.message.severity).style := by
  rw [Weight.ofFlags_eq, severityStyle]
  split_ifs <;> rfl

theorem typeWord_eq : a.typeWord = typeLabel a.message.type := rfl

theorem marker_eq : a.marker = Message.repeatMark a.occurrences := by
  simp only [marker, Message.repeatMark, ← Nat.not_lt, ite_not, gt_iff_lt]

theorem plain_eq : a.plain = a.message.fileText a.occurrences := by
  delta plain
  rw [severityWord_eq, typeWord_eq, marker_eq]
  rfl

theorem painted_eq (colors : Bool) :
    a.painted colors = a.message.consoleText a.occurrences colors := by
  simp only [painted, severityWord_eq, severityStyle_eq, typeWord_eq, marker_eq]
  rfl

end Accepted

/-- The severities that a level lets through. -/
def Level.mask : Level → Flags
  | errorsOnly => 0x1000
  | errorsAndWarnings => 0x1100
  | everything => 0x1111

theorem Level.flags_eq_mask (l : Level) : l.flags = l.mask := by
  cases l <;> decide

namespace History

variable (start : Disk) (past : History) (msg : Message)

/-- The configuration installed last, unless it was taken away since. -/
def installed : History → Option Config
  | [] => none
  | .install config :: _ => some config
  | .uninstall :: _ => none
  | .receive _ :: past => installed past
  | .setOpens _ _ :: past => installed past

/-- The configuration that lets a message through. -/
def passing : Option Config :=
  (installed past).filter fun config ↦ Flags.intersects config.level.mask msg.severity

/-- The messages let through since the last installation, the latest first. -/
def counted : History → List Message
  | [] => []
  | .install _ :: _ => []
  | .uninstall :: past => counted past
  | .receive msg :: past => if (passing past msg).isSome then msg :: counted past else counted past
  | .setOpens _ _ :: past => counted past

/-- The number of a message among those with its words, if it came now. -/
def number : Nat := ((counted past).map Message.wordsText).count msg.wordsText + 1

/-- A file can be opened at a path, as was said of the path last. -/
def opens : History → String → Bool
  | [], path => start.opens path
  | .install config :: past, path =>
    if config.output.path? = some path then config.fileOpens else opens past path
  | .setOpens path opens' :: past, path' => if path = path' then opens' else opens past path'
  | .uninstall :: past, path => opens past path
  | .receive _ :: past, path => opens past path

/-- The file that is written to under an output, if it can be opened. -/
def fileFor (output : Output) : Option String := output.path?.filter (opens start past)

/-- A message if it came now and is let through. -/
def acceptance : Option Accepted :=
  (passing past msg).map fun config ↦
    { output := config.output
      message := msg
      occurrences := number past msg
      file := fileFor start past config.output }

/-- Every message let through, in order. -/
def accepted : History → List Accepted
  | .receive msg :: past => accepted past ++ (acceptance start past msg).toList
  | .install _ :: past => accepted past
  | .uninstall :: past => accepted past
  | .setOpens _ _ :: past => accepted past
  | [] => []

/-- The entries that the file at a path got, in order. -/
def entries (path : String) : List String :=
  ((accepted start past).filter (·.file = some path)).map (·.plain)

variable {past msg}

theorem passing_eq_some {config : Config} :
    passing past msg = some config ↔
      installed past = some config ∧ Flags.intersects config.level.flags msg.severity := by
  rw [passing, Option.filter_eq_some_iff, Level.flags_eq_mask]

/-- A message that was let through has a known severity. -/
theorem exists_contains_of_passing {config : Config} (h : passing past msg = some config) :
    ∃ w : Weight, Flags.contains msg.severity w.flag := by
  obtain ⟨w, -, hw⟩ := (config.level.intersects_flags _).1 (passing_eq_some.1 h).2
  exact ⟨w, hw⟩

theorem length_counted_le (past : History) : (counted past).length ≤ past.length := by
  induction past with
  | nil => exact Nat.le_refl 0
  | cons e past ih =>
    cases e with
    | install config => exact Nat.zero_le _
    | uninstall => exact Nat.le_succ_of_le ih
    | setOpens path opens => exact Nat.le_succ_of_le ih
    | receive msg =>
      rw [counted]
      split
      · exact Nat.succ_le_succ ih
      · exact Nat.le_succ_of_le ih

end History

/-! ### Files -/

namespace Disk

variable {d : Disk} {path path' : String}

@[simp]
theorem text?_setOpens {opens : Bool} : (d.setOpens path opens).text? path' = d.text? path' := rfl

theorem opens_setOpens {opens : Bool} :
    (d.setOpens path opens).opens path' = if path = path' then opens else d.opens path' := by
  by_cases h : path = path' <;> cases opens <;>
    simp [Disk.opens, setOpens, h, Ne.symm]

/-- A file is found among the others as it is among all. -/
theorem lookup_filter_ne (h : path' ≠ path) (l : List (String × String)) :
    (l.filter (·.1 != path)).lookup path' = l.lookup path' := by
  induction l with
  | nil => rfl
  | cons file rest ih =>
    by_cases hpath : file.1 = path
    · have hne : (path' == file.1) = false := by simpa [hpath] using h
      rw [List.filter_cons_of_neg (by simp [hpath]), ih, List.lookup_cons, hne]
    · rw [List.filter_cons_of_pos (by simpa using hpath), List.lookup_cons, List.lookup_cons, ih]

/-- Words go to one file, and to that only if it can be opened. -/
theorem text?_append {words : String} : (d.append path words).text? path' =
    if path = path' ∧ d.opens path then some ((d.text? path').getD "" ++ words)
    else d.text? path' := by
  by_cases hopens : d.opens path
  · by_cases h : path = path'
    · subst h
      simp [append, hopens, text?]
    · have hne : (path' == path) = false := by simpa using Ne.symm h
      rw [if_neg fun h' ↦ h h'.1, append, if_pos hopens, text?, List.lookup_cons, hne]
      exact lookup_filter_ne (Ne.symm h) _
  · simp [append, hopens]

theorem opens_append {words : String} : (d.append path words).opens path' = d.opens path' := by
  rw [append]
  split <;> rfl

end Disk

/-! ### One event -/

namespace Stats

theorem count_add (s : Stats) (v w : Weight) :
    (s.add v).count w = s.count w + if v = w then 1 else 0 := by
  cases v <;> cases w <;> rfl

theorem total_add (s : Stats) (w : Weight) : (s.add w).total = s.total + 1 := by
  cases w <;> simp only [add, total] <;> omega

end Stats

/-- What a file holds after it got some entries; the first makes it if there is none. -/
def textAfter (before : Option String) (entries : List String) : Option String :=
  if entries = [] then before else some (before.getD "" ++ String.join entries)

theorem textAfter_append (before : Option String) (entries : List String) (entry : String) :
    textAfter before (entries ++ [entry]) =
      some ((textAfter before entries).getD "" ++ entry) := by
  rw [textAfter, if_neg (by simp), String.join_append, ← String.append_assoc, textAfter]
  split
  · next h => simp [h]
  · simp

/-- The texts of a messenger and what it knows are those that a history asks for. -/
structure Reflects (start : Messenger) (past : History) (m : Messenger) : Prop where
  /-- The configuration is the one installed last. -/
  config : m.config = History.installed past
  /-- Each count is the number of the messages counted whose highest weight it is. -/
  count (w : Weight) : m.stats.count w =
    (History.counted past).countP fun msg ↦ w.IsHighestOf msg.severity
  /-- The total is the number of the messages counted. -/
  total : m.stats.total = (History.counted past).length
  /-- Under a configuration the words seen are those of the messages counted. -/
  seen : (History.installed past).isSome →
    m.seen.reverse = (History.counted past).map Message.wordsText
  /-- The console shows colors as it did. -/
  colors : m.colors = start.colors
  /-- The console got the texts of the messages let through. -/
  console : m.console = start.console ++
    String.join ((History.accepted start.disk past).map (·.consoleText start.colors))
  /-- Each file got the entries of the messages written to it. -/
  text (path : String) : m.disk.text? path =
    textAfter (start.disk.text? path) (History.entries start.disk past path)
  /-- Files can be opened where they could last. -/
  opens (path : String) : m.disk.opens path = History.opens start.disk past path

namespace Reflects

variable {start m : Messenger} {past : History} {msg : Message} {config : Config} {a : Accepted}

theorem fresh (colors : Bool) (console : String) (disk : Disk) :
    Reflects { colors, console, disk } [] { colors, console, disk } where
  config := rfl
  count w := by cases w <;> rfl
  total := rfl
  seen h := nomatch h
  colors := rfl
  console := by simp [History.accepted]
  text path := rfl
  opens path := rfl

theorem install (h : Reflects start past m) (config : Config) :
    Reflects start (.install config :: past) (m.install config) where
  config := rfl
  count w := by cases w <;> rfl
  total := rfl
  seen _ := rfl
  colors := h.colors
  console := h.console
  text path := by
    rw [Messenger.install]
    cases config.output.path? with
    | none => exact h.text path
    | some path' => exact h.text path
  opens path := by
    simp only [Messenger.install, History.opens]
    cases config.output.path? with
    | none => exact h.opens path
    | some path' =>
      simp only [Option.elim_some, Disk.opens_setOpens, h.opens, Option.some.injEq]

theorem uninstall (h : Reflects start past m) :
    Reflects start (.uninstall :: past) m.uninstall where
  config := rfl
  count := h.count
  total := h.total
  seen h := nomatch h
  colors := h.colors
  console := h.console
  text := h.text
  opens := h.opens

theorem setOpens (h : Reflects start past m) (path : String) (opens : Bool) :
    Reflects start (.setOpens path opens :: past) (m.setOpens path opens) where
  config := h.config
  count := h.count
  total := h.total
  seen := h.seen
  colors := h.colors
  console := h.console
  text := h.text
  opens path' := by
    simp only [Messenger.setOpens, History.opens, Disk.opens_setOpens, h.opens]

/-- A message that no configuration lets through changes nothing. -/
theorem receive_of_rejected (h : Reflects start past m) (hp : History.passing past msg = none) :
    m.receive msg = m := by
  rw [History.passing, Option.filter_eq_none_iff] at hp
  rw [Messenger.receive, h.config]
  cases hc : History.installed past with
  | none => rfl
  | some config => simp [Level.flags_eq_mask, hp config hc]

theorem receive_of_passing (h : Reflects start past m)
    (hp : History.passing past msg = some config) :
    m.receive msg = (m.count msg).put config.output msg (History.number past msg) := by
  obtain ⟨hc, hf⟩ := History.passing_eq_some.1 hp
  have hseen : (m.count msg).seen.count msg.wordsText = History.number past msg := by
    rw [History.number, ← h.seen (by simp [hc])]
    simp [Messenger.count]
  rw [Messenger.receive, h.config, hc]
  simp only [hf, if_true, hseen]

theorem rejected (h : Reflects start past m) (hp : History.passing past msg = none) :
    Reflects start (.receive msg :: past) (m.receive msg) := by
  have hcounted : History.counted (.receive msg :: past) = History.counted past := by
    simp [History.counted, hp]
  have haccepted : History.accepted start.disk (.receive msg :: past) =
      History.accepted start.disk past := by
    simp [History.accepted, History.acceptance, hp]
  have hentries (path : String) : History.entries start.disk (.receive msg :: past) path =
      History.entries start.disk past path := by
    rw [History.entries, haccepted, History.entries]
  rw [h.receive_of_rejected hp]
  exact {
    config := h.config
    count := hcounted ▸ h.count
    total := hcounted ▸ h.total
    seen := hcounted ▸ h.seen
    colors := h.colors
    console := haccepted ▸ h.console
    text := fun path ↦ hentries path ▸ h.text path
    opens := h.opens }

/-- Putting a message writes to the file of the output, if that can be opened. -/
theorem text?_put {output : Output} {n : Nat} (path : String) :
    (m.put output msg n).disk.text? path =
      if output.path?.filter m.disk.opens = some path then
        some ((m.disk.text? path).getD "" ++ msg.fileText n)
      else m.disk.text? path := by
  have happend (path' : String) : (m.disk.append path' (msg.fileText n)).text? path =
      if (some path').filter m.disk.opens = some path then
        some ((m.disk.text? path).getD "" ++ msg.fileText n)
      else m.disk.text? path := by
    rw [Disk.text?_append, Option.filter_some]
    by_cases hopens : m.disk.opens path' <;> simp [hopens]
  cases output with
  | console => rfl
  | file path' => exact happend path'
  | both path' => exact happend path'

/-- What a message that is let through adds to the console. -/
theorem console_receive (h : Reflects start past m)
    (ha : History.acceptance start.disk past msg = some a) :
    (m.receive msg).console = m.console ++ a.consoleText m.colors := by
  obtain ⟨config, hp, rfl⟩ := Option.map_eq_some_iff.1 ha
  rw [h.receive_of_passing hp, Messenger.put, Accepted.consoleText]
  cases config.output with
  | console => simp [Output.usesConsole, Accepted.painted_eq, Messenger.count]
  | file path => simp [Output.usesConsole, Messenger.count]
  | both path => simp [Output.usesConsole, Accepted.painted_eq, Messenger.count]

/-- What it adds to the files. -/
theorem text?_receive (h : Reflects start past m)
    (ha : History.acceptance start.disk past msg = some a) (path : String) :
    (m.receive msg).disk.text? path =
      if a.file = some path then some ((m.disk.text? path).getD "" ++ a.plain)
      else m.disk.text? path := by
  obtain ⟨config, hp, rfl⟩ := Option.map_eq_some_iff.1 ha
  have hopens : m.disk.opens = History.opens start.disk past := funext h.opens
  rw [h.receive_of_passing hp, text?_put, Accepted.plain_eq, History.fileFor, ← hopens]
  rfl

/-- It blocks no path. -/
theorem opens_receive (path : String) : (m.receive msg).disk.opens path = m.disk.opens path := by
  rw [Messenger.receive]
  split
  · rfl
  · next config _ =>
    split
    · rw [Messenger.put]
      cases config.output.path? with
      | none => rfl
      | some path' => exact Disk.opens_append
    · rfl

theorem passed (h : Reflects start past m) (hp : History.passing past msg = some config) :
    Reflects start (.receive msg :: past) (m.receive msg) := by
  obtain ⟨a, ha⟩ : ∃ a, History.acceptance start.disk past msg = some a :=
    ⟨_, Option.map_eq_some_iff.2 ⟨config, hp, rfl⟩⟩
  have hcounted : History.counted (.receive msg :: past) = msg :: History.counted past := by
    simp [History.counted, hp]
  have haccepted : History.accepted start.disk (.receive msg :: past) =
      History.accepted start.disk past ++ [a] := by
    simp [History.accepted, ha]
  have hweight (w : Weight) : w.IsHighestOf msg.severity ↔ Weight.ofFlags msg.severity = w :=
    Weight.isHighestOf_iff (History.exists_contains_of_passing hp)
  have hreceive := h.receive_of_passing hp
  refine ⟨?_, fun w ↦ ?_, ?_, fun hi ↦ ?_, ?_, ?_, fun path ↦ ?_, fun path ↦ ?_⟩
  · rw [hreceive]
    exact h.config
  · rw [hcounted, List.countP_cons, ← h.count w, hreceive]
    simp only [hweight, decide_eq_true_eq]
    exact Stats.count_add m.stats _ w
  · rw [hcounted, List.length_cons, ← h.total, hreceive]
    exact Stats.total_add _ _
  · rw [hcounted, List.map_cons, ← h.seen hi, hreceive]
    exact List.reverse_append
  · rw [hreceive]
    exact h.colors
  · rw [h.console_receive ha, haccepted, List.map_append, String.join_append,
      ← String.append_assoc, ← h.console, h.colors]
    simp
  · have hentries : History.entries start.disk (.receive msg :: past) path =
        History.entries start.disk past path ++
          ([a].filter (·.file = some path)).map (·.plain) := by
      rw [History.entries, haccepted, List.filter_append, List.map_append, ← History.entries]
    rw [h.text?_receive ha, h.text, hentries]
    by_cases hfile : a.file = some path
    · have hlast : [a].filter (·.file = some path) = [a] := by simp [hfile]
      rw [if_pos hfile, hlast, List.map_singleton, textAfter_append]
    · have hnone : [a].filter (·.file = some path) = [] := by simp [hfile]
      rw [if_neg hfile, hnone, List.map_nil, List.append_nil]
  · rw [opens_receive]
    exact h.opens path

theorem perform (h : Reflects start past m) (e : Event) :
    Reflects start (e :: past) (e.perform m) := by
  cases e with
  | install config => exact h.install config
  | uninstall => exact h.uninstall
  | setOpens path opens => exact h.setOpens path opens
  | receive msg =>
    cases hp : History.passing past msg with
    | none => exact h.rejected hp
    | some config => exact h.passed hp

theorem after (colors : Bool) (console : String) (disk : Disk) (past : History) :
    Reflects { colors, console, disk } past
      (Messenger.after { colors, console, disk } past) := by
  induction past with
  | nil => exact fresh colors console disk
  | cons e past ih => exact ih.perform e

end Reflects

/-! ### Every history -/

/-- What a messenger says and does after a history. -/
structure Accounts (start : Messenger) (past : History) (m : Messenger) : Prop
    extends Reflects start past m where
  /-- There are no more messages counted than events, so no count outgrows them. -/
  bounded : m.stats.total ≤ past.length
  /-- Under a configuration, the counts of all different words make the total. -/
  distinct : (History.installed past).isSome →
    m.stats.total = (m.seen.dedup.map fun words ↦ m.seen.count words).sum
  /-- The names and words of messages are what their bytes say. -/
  decodes (msg : Message) :
    Decodes "Unknown" msg.id msg.idText ∧ Decodes "No message" msg.words msg.wordsText
  /-- The next message changes nothing if no configuration lets it through. -/
  ignores (msg : Message) : History.passing past msg = none → m.receive msg = m
  /-- If one does, the message is reported under its number, where the configuration sends it. -/
  reports (msg : Message) (a : Accepted) : History.acceptance start.disk past msg = some a →
    (m.receive msg).console = m.console ++ a.consoleText m.colors ∧
      ∀ path, (m.receive msg).disk.text? path =
        if a.file = some path then some ((m.disk.text? path).getD "" ++ a.plain)
        else m.disk.text? path

/-- **A messenger accounts for its history.** Whatever happened to a new messenger, its counts are
those of the messages let through since the last installation, each under its highest weight; the
next message is reported with its number among those with the same words, or passed over without a
trace; and the console and every file hold what they held at first and after that the entries of
all messages that went there, in order. -/
theorem accounts_after (colors : Bool) (console : String) (disk : Disk) (past : History) :
    Accounts { colors, console, disk } past
      (Messenger.after { colors, console, disk } past) := by
  have h := Reflects.after colors console disk past
  refine { h with bounded := ?_, distinct := fun hi ↦ ?_, decodes := fun msg ↦ ?_,
                  ignores := fun _ ↦ h.receive_of_rejected, reports := fun msg a ha ↦ ?_ }
  · rw [h.total]
    exact History.length_counted_le past
  · have hlength : (Messenger.after { colors, console, disk } past).seen.length =
        (History.counted past).length := by
      rw [← List.length_reverse, h.seen hi, List.length_map]
    rw [List.sum_map_count_dedup_eq_length, hlength, h.total]
  · exact ⟨msg.id.decodes_text _, msg.words.decodes_text _⟩
  · exact ⟨h.console_receive ha, h.text?_receive ha⟩

/-- One file for everything, and then another one for errors, which cannot be opened for a while. -/
def twoFiles : History :=
  [.receive ⟨0x1000, 2, none, some [0xff]⟩,
   .setOpens "errors.log" true,
   .receive ⟨0x1000, 2, none, some [0x6e, 0x6f]⟩,
   .setOpens "errors.log" false,
   .receive ⟨0x100, 2, none, some [0x6e, 0x6f]⟩,
   .receive ⟨0x1001, 4, some [0x69, 0x64, 0, 0x6f], some [0x6e, 0x6f]⟩,
   .install { level := .errorsOnly, output := .both "errors.log" },
   .receive ⟨0x1, 1, none, some [0x6e, 0x6f]⟩,
   .receive ⟨0x1001, 2, none, some [0x6e, 0x6f]⟩,
   .install { level := .everything, output := .file "all.log" }]

/-- Each file has the entries of its time, and words are counted anew for the second one. The
warning is passed over; the second error is the second of its words and on the console only. -/
theorem accounts_after_twoFiles :
    let m := Messenger.after { colors := false } twoFiles
    m.disk.text? "all.log" = some ("[VULKAN ERROR] [Validation]\n  |- Message ID: Unknown\n" ++
      "  `- no\n\n[VULKAN VERBOSE] [General] [x2]\n  |- Message ID: Unknown\n  `- no\n\n") ∧
    m.disk.text? "errors.log" = some ("[VULKAN ERROR] [Performance]\n  |- Message ID: id\n" ++
      "  `- no\n\n[VULKAN ERROR] [Validation]\n  |- Message ID: Unknown\n" ++
      "  `- <invalid UTF-8>\n\n") ∧
    m.console = "[VULKAN ERROR] [Performance]\n  |- Message ID: id\n  `- no\n" ++
      "[VULKAN ERROR] [Validation] [x2]\n  |- Message ID: Unknown\n  `- no\n" ++
      "[VULKAN ERROR] [Validation]\n  |- Message ID: Unknown\n  `- <invalid UTF-8>\n" ∧
    m.stats.count .error = 3 := by
  have h := accounts_after false "" {} twoFiles
  refine ⟨(h.text "all.log").trans ?_, (h.text "errors.log").trans ?_, h.console.trans ?_,
    (h.count .error).trans ?_⟩ <;> decide +kernel

end RenderTargets.Validation
