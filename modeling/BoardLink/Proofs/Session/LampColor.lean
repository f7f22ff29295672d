import BoardLink.Proofs.Hardware.Dispatch
import BoardLink.Proofs.Session.Registers
import BoardLink.Proofs.Text.Blank
import BoardLink.Proofs.Value.ColorText

-- The way of a colour from its written form to a lamp of the board, back from the lamp, and into
-- written form again.
namespace BoardLink

namespace RgbColor

open Text Numeral

variable {text before after : List Char} {n : Nat}

theorem isBlank_of_isDigit {base digit : Nat} {c : Char} (hbase : base ≤ 16)
    (h : IsDigit base c digit) : isBlank c = false := by
  obtain ⟨hd, hc⟩ := h
  have hall : ∀ d : Fin 16, isBlank d.val.digitChar = false ∧
      isBlank d.val.digitChar.toUpper = false := by decide
  obtain ⟨hlower, hupper⟩ := hall ⟨digit, by omega⟩
  rcases hc with rfl | rfl
  · exact hlower
  · exact hupper

theorem Documented.not_blank (h : Documented text n) : ∀ c ∈ text, isBlank c = false := by
  have hdigits : ∀ {base k : Nat} {digits : List Char}, base ≤ 16 → Written base digits k →
      ∀ c ∈ digits, isBlank c = false := by
    intro base k digits hbase hw c hc
    obtain ⟨digit, hdigit⟩ := hw.isDigit_of_mem hc
    exact isBlank_of_isDigit hbase hdigit
  cases h with
  | hash _ h =>
      intro c hc
      rcases List.mem_cons.mp hc with rfl | hc
      · decide
      · exact hdigits (by decide) h c hc
  | hex hx h =>
      intro c hc
      rcases List.mem_cons.mp hc with rfl | hc
      · decide
      · rcases List.mem_cons.mp hc with rfl | hc
        · rcases hx with rfl | rfl <;> decide
        · exact hdigits (by decide) h c hc
  | decimal h => exact hdigits (by decide) h
  | plus h =>
      intro c hc
      rcases List.mem_cons.mp hc with rfl | hc
      · decide
      · exact hdigits (by decide) h c hc

-- However a number is written, and whatever blanks stand around it, it is read as its colour.
theorem ofText_surrounded (hb : ∀ c ∈ before, isBlank c = true) (h : Documented text n)
    (ha : ∀ c ∈ after, isBlank c = true) (hn : n ≤ 0xffffff) :
    ofText (String.ofList (before ++ text ++ after)) = .ok (unpack n) := by
  have htrim : trim (String.ofList (before ++ text ++ after)).toList = text := by
    rw [String.toList_ofList]
    exact trim_surrounded hb h.not_blank ha
  rw [ofText_eq_ok_iff, htrim, pack_unpack hn]
  exact number?_of_documented h (by omega)

-- Six digits are enough for every colour, and zeros in front make up for those it does not need.
theorem documented_text (color : RgbColor) : Documented color.text.toList color.pack := by
  have hpack : color.pack < 16 ^ 6 := by
    have hle := color.pack_le
    omega
  rw [RgbColor.text, String.toList_ofList]
  exact .hash (length_padLeft (length_hexUpper_le (by decide) hpack))
    ((written_hexUpper color.pack).padLeft 6)

theorem ofText_text (color : RgbColor) : ofText color.text = .ok color := by
  have hdocumented := color.documented_text
  rw [ofText_eq_ok_iff, trim_of_plain hdocumented.not_blank]
  exact number?_of_documented hdocumented (by have hle := color.pack_le; omega)

theorem testBit_channel (n shift : Nat) {i : Nat} (hi : i < 8) :
    (UInt8.ofNat (n / 2 ^ shift)).toNat.testBit i = n.testBit (shift + i) := by
  rw [UInt8.toNat_ofNat', Nat.testBit_mod_two_pow, decide_eq_true hi, Bool.true_and,
    Nat.testBit_div_two_pow, Nat.add_comm]

-- The places of the three channels in a number, bit by bit.
theorem testBit_unpack (n : Nat) {i : Nat} (hi : i < 8) :
    (unpack n).red.toNat.testBit i = n.testBit (16 + i) ∧
      (unpack n).green.toNat.testBit i = n.testBit (8 + i) ∧
      (unpack n).blue.toNat.testBit i = n.testBit i := by
  refine ⟨testBit_channel n 16 hi, testBit_channel n 8 hi, ?_⟩
  have hblue := testBit_channel n 0 hi
  rwa [Nat.pow_zero, Nat.div_one, Nat.zero_add] at hblue

end RgbColor

namespace LampColor

open Device Hardware RgbColor Text

-- The board answers without scripts over connections that are granted, and has its three lamps.
structure Lightable (bench : Bench) : Prop where
  ready : Session.Ready bench
  scripts : bench.device.scripts = []
  lamps : bench.device.leds.length = 3

theorem lightable_new (settings : List Setting) : Lightable (Bench.new (configured settings)) :=
  ⟨Session.ready_new _, (configured_spec settings).scripts, (holds_configured settings).lamps⟩

variable (convention : BatteryConvention) {command : Command} {bench : Bench} {led : UInt8}
  {status : LedStatus}

theorem Lightable.execute (h : Lightable bench) (hr : command.refusal? false = none) :
    ∃ after, (Bench.executor convention).execute command bench =
        (.finished (command.judge (bench.device.respond command.request).1.toBytes), after) ∧
      Session.Ready after ∧ after.device = (bench.device.respond command.request).2 :=
  h.ready.execute h.scripts convention (by rw [h.ready.refusing, hr])

theorem execute_setLed (h : Lightable bench) (hled : led ≤ 2) (brightness : UInt8)
    (color : RgbColor) :
    ∃ after, (Bench.executor convention).execute (.setLed led brightness color) bench =
        (.finished (.ok ⟨0, ()⟩), after) ∧
      Lightable after ∧ after.device.led? led.toNat = some ⟨brightness, color⟩ := by
  have hlt : led.toNat < bench.device.leds.length := by
    have hle : led.toNat ≤ 2 := UInt8.le_iff_toNat_le.mp hled
    rw [h.lamps]
    omega
  have hrespond : bench.device.respond (Command.setLed led brightness color).request =
      (.success .setLedValue [], _) := respond_setLed hlt
  have hjudge : (Command.setLed led brightness color).judge
      (Response.success .setLedValue []).toBytes = .ok ⟨0, ()⟩ :=
    Command.judge_toBytes (by decide) (Nat.zero_le _) rfl
  have hnone : (Command.setLed led brightness color).refusal? false = none := rfl
  obtain ⟨after, hexecute, hready, hdevice⟩ := h.execute convention hnone
  rw [hrespond] at hexecute hdevice
  rw [hjudge] at hexecute
  refine ⟨after, hexecute, ⟨hready, ?_, ?_⟩, ?_⟩
  · rw [hdevice]
    exact h.scripts
  · rw [hdevice, List.length_set]
    exact h.lamps
  · rw [hdevice, led?_set hlt, if_pos rfl]

theorem execute_ledStatus (h : Lightable bench)
    (hlamp : bench.device.led? led.toNat = some status) :
    ∃ after, (Bench.executor convention).execute (.ledStatus led) bench =
      (.finished (.ok ⟨0, status⟩), after) := by
  have hjudge : (Command.ledStatus led).judge
      (Response.success .getLedStatus status.toBytes).toBytes = .ok ⟨0, status⟩ :=
    Command.judge_toBytes (by decide) (by simp [maxPayload]) rfl
  have hnone : (Command.ledStatus led).refusal? false = none := rfl
  obtain ⟨after, hexecute, -, -⟩ := h.execute convention hnone
  rw [respond_ledStatus hlamp, hjudge] at hexecute
  exact ⟨after, hexecute⟩

-- Callers give the colour as a number, which is unpacked once more on the way.
theorem run_setLed (h : Lightable bench) (hled : led ≤ 2) (brightness : UInt8)
    (color : RgbColor) :
    ∃ after, (Method.setLed led brightness (UInt32.ofNat color.pack)).run
        (Bench.executor convention) bench = (.finished (.ok ()), after) ∧
      Lightable after ∧ after.device.led? led.toNat = some ⟨brightness, color⟩ := by
  have hcheck : (Method.setLed led brightness (UInt32.ofNat color.pack)).check = .ok () :=
    if_neg (UInt8.not_lt.mpr hled)
  obtain ⟨after, hexecute, hafter⟩ := execute_setLed convention h hled brightness color
  refine ⟨after, ?_, hafter⟩
  rw [Method.run_of_check hcheck]
  dsimp only [Method.command]
  rw [Method.unpack_toNat_pack, hexecute]
  rfl

theorem run_ledStatus (h : Lightable bench) (hled : led ≤ 2)
    (hlamp : bench.device.led? led.toNat = some status) :
    ∃ after, (Method.ledStatus led).run (Bench.executor convention) bench =
      (.finished (.ok status), after) := by
  have hcheck : (Method.ledStatus led).check = .ok () := if_neg (UInt8.not_lt.mpr hled)
  obtain ⟨after, hexecute⟩ := execute_ledStatus convention h hlamp
  refine ⟨after, ?_⟩
  rw [Method.run_of_check hcheck, hexecute]
  rfl

-- A number below 2 ^ 24 keeps its bits in every notation, on the lamp, and in the text that is
-- made of what the lamp shows.
theorem written_color_comes_back (convention : BatteryConvention) {bench : Bench}
    (h : Lightable bench) {rgb : Nat} (hrgb : rgb < 2 ^ 24) {before spelled after : List Char}
    (hb : ∀ c ∈ before, isBlank c = true) (hs : Documented spelled rgb)
    (ha : ∀ c ∈ after, isBlank c = true) {led : UInt8} (hled : led ≤ 2) (brightness : UInt8) :
    ∃ color written seen,
      ofText (String.ofList (before ++ spelled ++ after)) = .ok color ∧ color.pack = rgb ∧
      (Method.setLed led brightness (UInt32.ofNat color.pack)).run (Bench.executor convention)
        bench = (.finished (.ok ()), written) ∧
      (Method.ledStatus led).run (Bench.executor convention) written =
        (.finished (.ok ⟨brightness, color⟩), seen) ∧
      (∀ i, i < 8 → color.red.toNat.testBit i = rgb.testBit (16 + i) ∧
        color.green.toNat.testBit i = rgb.testBit (8 + i) ∧
        color.blue.toNat.testBit i = rgb.testBit i) ∧
      ofText color.text = .ok color := by
  have hle : rgb ≤ 0xffffff := by omega
  obtain ⟨written, hset, hlightable, hlamp⟩ :=
    run_setLed convention h hled brightness (unpack rgb)
  obtain ⟨seen, hread⟩ := run_ledStatus convention hlightable hled hlamp
  exact ⟨unpack rgb, written, seen, ofText_surrounded hb hs ha hle, pack_unpack hle, hset, hread,
    fun i hi => testBit_unpack rgb hi, ofText_text (unpack rgb)⟩

-- With letters of both cases, zeros in front, and blanks of several kinds around.
theorem hex_color_comes_back :
    Lightable (Bench.new (configured [])) ∧ 0x12abcd < 2 ^ 24 ∧
      (∀ c ∈ ['\t', '\u3000'], isBlank c = true) ∧
      Documented "0X00012aBcD".toList 0x12abcd ∧ (∀ c ∈ [' ', '\n'], isBlank c = true) ∧
      (2 : UInt8) ≤ 2 ∧ ∃ color written seen,
        ofText "\t\u30000X00012aBcD \n" = .ok color ∧ color.pack = 0x12abcd ∧
        (Method.setLed 2 255 (UInt32.ofNat color.pack)).run (Bench.executor .payloadNonZero)
          (Bench.new (configured [])) = (.finished (.ok ()), written) ∧
        (Method.ledStatus 2).run (Bench.executor .payloadNonZero) written =
          (.finished (.ok ⟨255, color⟩), seen) ∧
        ofText color.text = .ok color := by
  have hbefore : ∀ c ∈ ['\t', '\u3000'], isBlank c = true := List.all_eq_true.mp (by decide)
  have hafter : ∀ c ∈ [' ', '\n'], isBlank c = true := List.all_eq_true.mp (by decide)
  have hdigits : Numeral.readDigits 16 0xffffff 0 "00012aBcD".toList = .ok 0x12abcd := by decide
  have hspelled : Documented "0X00012aBcD".toList 0x12abcd :=
    .hex (.inr rfl) (Numeral.written_of_readDigits (by decide) (by decide) hdigits)
  obtain ⟨color, written, seen, hread, hpack, hset, hseen, -, htext⟩ :=
    written_color_comes_back .payloadNonZero (lightable_new []) (by decide) hbefore hspelled
      hafter (by decide : (2 : UInt8) ≤ 2) 255
  exact ⟨lightable_new [], by decide, hbefore, hspelled, hafter, by decide, color, written, seen,
    hread, hpack, hset, hseen, htext⟩

end LampColor

end BoardLink
