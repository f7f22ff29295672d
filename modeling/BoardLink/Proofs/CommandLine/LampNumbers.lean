import BoardLink.Proofs.CommandLine.Ending
import BoardLink.Proofs.CommandLine.Names
import BoardLink.Proofs.Session.LampColor

-- Lamps are named on the command line by any byte, but the board has only three. A call about
-- another one is well-formed and fails before anyone is called.
namespace BoardLink

open Text Numeral

namespace Hardware

open Executor

variable {method : Method} {led : UInt8}

-- The calls that are about a lamp.
inductive LampCall (led : UInt8) : Method → Prop where
  | status : LampCall led (.ledStatus led)
  | set {brightness : UInt8} {rgb : UInt32} : LampCall led (.setLed led brightness rgb)

theorem LampCall.check (h : LampCall led method) (hled : 2 < led) :
    method.check = .error (.invalidValue .led led.toUInt32) := by
  cases h <;> exact if_pos hled

theorem LampCall.run {σ κ : Type} (h : LampCall led method) (hled : 2 < led)
    (executor : Executor σ κ) (s : σ) :
    method.run executor s =
      (.finished (.error (.decode (.invalidValue .led led.toUInt32))), s) := by
  rw [Method.run, h.check hled]

end Hardware

namespace Host

variable {host next after : Host}

-- Nothing happens but that lines are added to the log, and none of them is about a socket.
def Unconnected (host after : Host) : Prop :=
  ∃ lines, after = { host with journal := host.journal ++ lines } ∧
    ∀ line ∈ lines, line.target ≠ socketTarget

theorem Unconnected.refl (host : Host) : Unconnected host host :=
  ⟨[], by rw [List.append_nil], nofun⟩

theorem Unconnected.trans (h : Unconnected host next) (ha : Unconnected next after) :
    Unconnected host after := by
  obtain ⟨lines, rfl, hlines⟩ := h
  obtain ⟨more, rfl, hmore⟩ := ha
  exact ⟨lines ++ more, by rw [List.append_assoc], List.forall_mem_append.mpr ⟨hlines, hmore⟩⟩

theorem unconnected_log {level : Log.Level} {target message : String} (h : target ≠ socketTarget) :
    Unconnected host (host.log ⟨level, target, message⟩) :=
  ⟨[⟨level, target, message⟩], rfl, List.forall_mem_singleton.mpr h⟩

-- Whoever tries to connect leaves a line about the socket, whether it is opened or not.
theorem not_unconnected_connect (path : FilePath) (timeoutMs : Option UInt64) (host : Host) :
    ¬ Unconnected host (host.connect path timeoutMs).2 := by
  have hline : ∃ line, (host.connect path timeoutMs).2.journal = host.journal ++ [line] ∧
      line.target = socketTarget := by
    unfold connect
    dsimp only
    split
    · split
      · exact ⟨_, rfl, rfl⟩
      · split <;> exact ⟨_, rfl, rfl⟩
    · exact ⟨_, rfl, rfl⟩
  rintro ⟨lines, hafter, hlines⟩
  obtain ⟨line, hjournal, htarget⟩ := hline
  rw [hafter] at hjournal
  obtain rfl : lines = [line] := List.append_cancel_left hjournal
  exact hlines line List.mem_cons_self htarget

end Host

section Unreached

variable {environment : Environment} {options : Options} {host : Host} {operation : Operation}
  {led : UInt8}

theorem unconnected_load (path : FilePath) (host : Host) :
    host.Unconnected (Settings.load path host).2 := by
  unfold Settings.load
  split
  · split
    · exact .refl host
    · split
      · exact .refl host
      · exact Host.unconnected_log (by decide)
  · exact Host.unconnected_log (by decide)

theorem unconnected_loadEnvironment (settings : Settings) (value : Option String) (host : Host) :
    host.Unconnected (settings.loadEnvironment value host).2 := by
  unfold Settings.loadEnvironment
  split
  · exact Host.unconnected_log (by decide)
  · exact .refl host

theorem unconnected_settings (environment : Environment) (options : Options) (host : Host) :
    host.Unconnected (environment.settings options host).2 := by
  unfold Environment.settings
  cases environment.settingsPath options with
  | error failure => exact .refl host
  | ok path =>
      have hload := unconnected_load path host
      dsimp only
      generalize Settings.load path host = loading at hload ⊢
      obtain ⟨loaded, opened⟩ := loading
      cases loaded with
      | error error => exact hload
      | ok stored => exact hload.trans (unconnected_loadEnvironment stored environment.endpoint opened)

theorem unconnected_build (reach : Reach) (host : Host) : host.Unconnected (reach.build host).2 := by
  unfold Reach.build
  split
  · exact .refl host
  · exact Host.unconnected_log (by decide)

-- The way to the board is found without going it.
theorem unconnected_reach (environment : Environment) (options : Options) (host : Host) :
    host.Unconnected (environment.reach options host).2 := by
  have hsettings := unconnected_settings environment options host
  unfold Environment.reach
  generalize environment.settings options host = merging at hsettings ⊢
  obtain ⟨settings, opened⟩ := merging
  cases settings with
  | error failure => exact hsettings
  | ok settings =>
      have hbuild := hsettings.trans (unconnected_build (.ofSettings settings) opened)
      dsimp only
      generalize (Reach.ofSettings settings).build opened = building at hbuild ⊢
      obtain ⟨reach, built⟩ := building
      cases reach with
      | error error => exact hbuild
      | ok reach => exact hbuild.trans (Host.unconnected_log (by decide))

-- A number that no lamp has is noticed when all is ready for the call.
theorem operate_of_lampCall (h : Hardware.LampCall led (.ofOperation operation)) (hled : 2 < led)
    (options : Options) (reach : Reach) (host : Host) :
    Run.operate options reach operation host =
      (.failure (.call operation (.decode (.invalidValue .led led.toUInt32))), host) := by
  unfold Run.operate Run.call
  rw [h.run hled]
  rfl

theorem invocation_of_lampCall (h : Hardware.LampCall led (.ofOperation operation)) (hled : 2 < led)
    (environment : Environment) (now : LocalTime) (options : Options) (host : Host) :
    (∃ failure, (Run.invocation environment now options (.call operation) host).1 =
        .failure failure) ∧
      host.Unconnected (Run.invocation environment now options (.call operation) host).2 := by
  have hreach := unconnected_reach environment options host
  unfold Run.invocation Run.withReach
  dsimp only
  generalize environment.reach options host = reaching at hreach ⊢
  obtain ⟨reach, opened⟩ := reaching
  cases reach with
  | error failure => exact ⟨⟨failure, rfl⟩, hreach⟩
  | ok reach =>
      dsimp only
      rw [operate_of_lampCall h hled]
      exact ⟨⟨_, rfl⟩, hreach⟩

theorem run_of_lampCall (h : Hardware.LampCall led (.ofOperation operation)) (hled : 2 < led)
    (environment : Environment) (shown : Option String) (now : LocalTime) {words : List String}
    (host : Host) (hread : CommandLine.read words = .ok (options, .call operation)) :
    (Program.run environment shown now words host).1.exitCode = 1 ∧
      (Program.run environment shown now words host).1.output = [] ∧
      host.Unconnected (Program.run environment shown now words host).2 := by
  obtain ⟨⟨failure, hfailure⟩, hafter⟩ :=
    invocation_of_lampCall h hled environment now options host
  obtain ⟨hexit, houtput⟩ := Program.run_of_read environment shown now host hread
  have hhost : (Program.run environment shown now words host).2 =
      (Run.invocation environment now options (.call operation) host).2 := by
    unfold Program.run
    rw [hread]
  rw [hexit, houtput, hhost, hfailure]
  exact ⟨rfl, rfl, hafter⟩

end Unreached

namespace CommandLine

variable {text word : String} {led : UInt8} {reading : Reading}

theorem foldlM_step {next : Reading} (h : reading.step word = .ok next) (words : List String) :
    (word :: words).foldlM Reading.step reading = words.foldlM Reading.step next := by
  rw [List.foldlM_cons, h]
  rfl

-- A word that does not begin with a dash is no option.
theorem step_of_plain (hmode : reading.mode = .open) (h : word.toList.head? ≠ some '-') :
    reading.step word = reading.bare word := by
  unfold Reading.step
  rw [hmode]
  generalize word.toList = letters at h
  -- The first four rules are for other modes.
  split
  · contradiction
  · contradiction
  · contradiction
  · contradiction
  · exact absurd rfl h
  · rfl

theorem step_argument {verb : Verb} {kind : Kind} {argument : Argument}
    (hmode : reading.mode = .open) (hverb : Verb.ofPath? reading.path = some verb)
    (hkind : verb.kinds[reading.arguments.length]? = some kind)
    (hplain : word.toList.head? ≠ some '-') (hread : kind.read? word = some argument) :
    reading.step word = .ok { reading with arguments := reading.arguments ++ [argument] } := by
  rw [step_of_plain hmode hplain, Reading.bare, hverb, Option.isSome_some, if_pos rfl,
    Reading.argument, hverb]
  simp only [orRefuse, bind, Except.bind, hkind, hread]
  rfl

theorem not_dashed_of_equal {name : String} (h : EqualButCase text name)
    (hname : ∀ c ∈ name.toList.head?, c.toLower ≠ '-') : text.toList.head? ≠ some '-' := by
  intro hdash
  have hhead := h.head?
  rw [hdash] at hhead
  obtain ⟨first, hfirst, hlower⟩ := Option.map_eq_some_iff.mp hhead.symm
  exact hname first hfirst hlower

theorem not_dashed_of_typed {n : Nat} (h : Typed 10 text.toList n) :
    text.toList.head? ≠ some '-' := by
  obtain ⟨c, rest, htext, hc⟩ := h.begins
  rw [htext, List.head?_cons]
  rintro ⟨⟩
  exact absurd hc (by decide)

theorem not_dashed_of_lampMeans (h : LampMeans text led) : text.toList.head? ≠ some '-' := by
  cases h with
  | right same => exact not_dashed_of_equal same (by simp)
  | center same => exact not_dashed_of_equal same (by simp)
  | left same => exact not_dashed_of_equal same (by simp)
  | number typed => exact not_dashed_of_typed typed

theorem foldlM_led {verb : Verb}
    (hword : Reading.step ⟨.open, ["led"], [], [], []⟩ word =
      .ok ⟨.open, ["led", word], [], [], []⟩)
    (hverb : Verb.ofPath? ["led", word] = some verb) (hkind : verb.kinds[0]? = some .led)
    (h : ledOfText text = .ok led) (words : List String) :
    ("led" :: word :: text :: words).foldlM Reading.step .start =
      words.foldlM Reading.step ⟨.open, ["led", word], [], [], [.led led]⟩ := by
  have hled : Reading.start.step "led" = .ok ⟨.open, ["led"], [], [], []⟩ := rfl
  have hread : Kind.read? text .led = some (.led led) := by
    rw [Kind.read?, h]
    rfl
  have htext : Reading.step ⟨.open, ["led", word], [], [], []⟩ text =
      .ok ⟨.open, ["led", word], [], [], [.led led]⟩ :=
    step_argument rfl hverb hkind (not_dashed_of_lampMeans (ledOfText_eq_ok_iff.mp h)) hread
  rw [foldlM_step hled, foldlM_step hword, foldlM_step htext]

theorem read_getLed (h : ledOfText text = .ok led) :
    read ["led", "get", text] = .ok (options [], .call (.ledStatus led)) := by
  have hverb : Verb.ofPath? ["led", "get"] = some .getLed := rfl
  rw [read, foldlM_led rfl hverb rfl h]
  rfl

theorem read?_toString (byte : UInt8) :
    Kind.read? (toString byte.toNat) .byte = some (.byte byte) := by
  have hbyte : byte.toNat ≤ 0xff := Nat.le_of_lt_succ byte.toNat_lt
  have hplain := not_dashed_of_typed (.inl (written_toString byte.toNat))
  have hnumber : readSigned? 0x7fffffffffffffff (toString byte.toNat).toList =
      some (.ofNat byte.toNat) := by
    have hread : read? 10 0x7fffffffffffffff (toString byte.toNat).toList = some byte.toNat :=
      (read?_eq_some_iff_typed (by decide)).mpr ⟨by omega, .inl (written_toString _)⟩
    generalize (toString byte.toNat).toList = letters at hplain hread
    unfold readSigned?
    split
    · exact absurd rfl hplain
    · rw [hread]
      rfl
  rw [Kind.read?, number?, hnumber]
  simp only [hbyte, if_true, Option.map_some, UInt8.ofNat_toNat]

theorem read_setLed (h : ledOfText text = .ok led) (brightness : UInt8) (color : RgbColor) :
    read ["led", "set", text, toString brightness.toNat, color.text] =
      .ok (options [], .call (.setLed led brightness color)) := by
  have hverb : Verb.ofPath? ["led", "set"] = some .setLed := rfl
  have hbrightness : Reading.step ⟨.open, ["led", "set"], [], [], [.led led]⟩
      (toString brightness.toNat) =
        .ok ⟨.open, ["led", "set"], [], [], [.led led, .byte brightness]⟩ :=
    step_argument rfl hverb rfl (not_dashed_of_typed (.inl (written_toString _)))
      (read?_toString brightness)
  have hcolor : Reading.step ⟨.open, ["led", "set"], [], [], [.led led, .byte brightness]⟩
      color.text =
        .ok ⟨.open, ["led", "set"], [], [], [.led led, .byte brightness, .color color]⟩ := by
    have hplain : color.text.toList.head? ≠ some '-' := by
      rw [RgbColor.text, String.toList_ofList]
      simp
    have hread : Kind.read? color.text .color = some (.color color) := by
      rw [Kind.read?, color.ofText_text]
      rfl
    exact step_argument rfl hverb rfl hplain hread
  rw [read, foldlM_led rfl hverb rfl h, foldlM_step hbrightness, foldlM_step hcolor]
  rfl

-- What stands for a channel is a number or a name of it, and of no other one. What stands for a
-- lamp may be more than the board has, which the command line lets pass and the call does not: it
-- leaves no footprint, and the run fails without having tried to connect.
theorem texts_mean_channels_and_lamps (text : String) :
    (∀ channel, AdcChannel.ofText text = .ok channel ↔ AdcChannel.Means text channel) ∧
      (∀ channel other, AdcChannel.Means text channel → AdcChannel.Means text other →
        channel = other) ∧
      (∀ led, ledOfText text = .ok led ↔ LampMeans text led) ∧
      ∀ led, LampMeans text led →
        read ["led", "get", text] = .ok (options [], .call (.ledStatus led)) ∧
        (∀ brightness color,
          read ["led", "set", text, toString brightness.toNat, color.text] =
            .ok (options [], .call (.setLed led brightness color))) ∧
        (2 < led →
          (∀ method, Hardware.LampCall led method →
            ∀ {σ κ : Type} (executor : Executor σ κ) (s : σ) (trace : List Executor.Footprint),
              method.run executor.traced (s, trace) =
                (.finished (.error (.decode (.invalidValue .led led.toUInt32))), (s, trace))) ∧
          ∀ operation, Hardware.LampCall led (.ofOperation operation) →
            ∀ environment shown now words options host,
              read words = .ok (options, .call operation) →
              (Program.run environment shown now words host).1.exitCode = 1 ∧
                (Program.run environment shown now words host).1.output = [] ∧
                host.Unconnected (Program.run environment shown now words host).2) := by
  refine ⟨fun _ => AdcChannel.ofText_eq_ok_iff, fun _ _ => AdcChannel.Means.unique,
    fun _ => ledOfText_eq_ok_iff, fun led hmeans => ?_⟩
  have hled := ledOfText_eq_ok_iff.mpr hmeans
  refine ⟨read_getLed hled, read_setLed hled, fun habsent => ⟨?_, ?_⟩⟩
  · intro method hcall _ _ executor s trace
    exact hcall.run habsent executor.traced (s, trace)
  · intro operation hcall environment shown now words options host hread
    exact run_of_lampCall hcall habsent environment shown now host hread

end CommandLine

end BoardLink
