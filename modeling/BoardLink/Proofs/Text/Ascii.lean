import BoardLink.Text.Utf8

-- Texts whose bytes are all below 128. There every byte is one character.
namespace BoardLink.Text.Utf8

-- The character that one byte stands for.
def plain (byte : UInt8) : Char := Char.ofNat byte.toNat

theorem toNat_lt_max (c : Char) : c.val.toNat < 1114112 := by
  rcases c.valid with h | h
  · exact Nat.lt_trans h (by decide)
  · exact h.2

theorem mod_lt_of_forall {n : Nat} {rest : Bytes}
    (h : ∀ byte ∈ UInt8.ofNat n :: rest, byte.toNat < 128) : n % 256 < 128 := by
  have hn := h _ (List.mem_cons_self ..)
  rwa [UInt8.toNat_ofNat'] at hn

-- Longer characters start with a byte of at least 192.
theorem toNat_lt_of_encodeChar {c : Char}
    (h : ∀ byte ∈ String.utf8EncodeChar c, byte.toNat < 128) : c.toNat < 128 := by
  apply Classical.byContradiction
  intro hc
  have hlong : ¬ c.val.toNat ≤ 127 := fun hle => hc (Nat.lt_succ_of_le hle)
  have hmax := toNat_lt_max c
  simp only [String.utf8EncodeChar, if_neg hlong] at h
  split at h
  · have hlead := mod_lt_of_forall h
    omega
  · split at h
    · have hlead := mod_lt_of_forall h
      omega
    · have hlead := mod_lt_of_forall h
      omega

theorem encodeChar_of_toNat_lt {c : Char} (h : c.toNat < 128) :
    String.utf8EncodeChar c = [UInt8.ofNat c.toNat] := by
  have hle : c.val.toNat ≤ 127 := Nat.le_of_lt_succ h
  simp only [String.utf8EncodeChar, if_pos hle]
  rfl

theorem plain_ofNat {c : Char} (h : c.toNat < 128) : plain (UInt8.ofNat c.toNat) = c := by
  have hmod : c.toNat % 256 = c.toNat := Nat.mod_eq_of_lt (by omega)
  rw [plain, UInt8.toNat_ofNat', hmod]
  exact Char.ofNat_toNat c

theorem map_plain_encode {text : List Char} (h : ∀ byte ∈ encode text, byte.toNat < 128) :
    (encode text).map plain = text := by
  induction text with
  | nil => rfl
  | cons c rest ih =>
      have happend : encode (c :: rest) = String.utf8EncodeChar c ++ encode rest := rfl
      rw [happend] at h ⊢
      have hc : c.toNat < 128 :=
        toNat_lt_of_encodeChar fun byte hb => h byte (List.mem_append_left _ hb)
      have hrest := ih fun byte hb => h byte (List.mem_append_right _ hb)
      rw [encodeChar_of_toNat_lt hc, List.map_append, hrest, List.map_singleton, plain_ofNat hc]
      rfl

theorem toNat_plain {byte : UInt8} (h : byte.toNat < 128) : (plain byte).toNat = byte.toNat := by
  have hvalid : byte.toNat.isValidChar := Or.inl (by omega)
  rw [plain, Char.ofNat, dif_pos hvalid]
  rfl

theorem encode_map_plain {bytes : Bytes} (h : ∀ byte ∈ bytes, byte.toNat < 128) :
    encode (bytes.map plain) = bytes := by
  induction bytes with
  | nil => rfl
  | cons byte rest ih =>
      have hbyte := h byte (List.mem_cons_self ..)
      have hchar : String.utf8EncodeChar (plain byte) = [byte] := by
        rw [encodeChar_of_toNat_lt (by rw [toNat_plain hbyte]; exact hbyte), toNat_plain hbyte,
          UInt8.ofNat_toNat]
      have hrest := ih fun other ho => h other (List.mem_cons_of_mem byte ho)
      simp only [encode] at hrest
      simp only [encode, List.map_cons, List.flatMap_cons, hchar, hrest, List.singleton_append]

theorem start_of_toNat_lt {byte : UInt8} (h : byte.toNat < 128) :
    start byte = ([some (plain byte)], none) := by
  have hlt : byte < 0x80 := h
  simp [start, lead?, hlt, plain]

theorem parts_of_toNat_lt {bytes : Bytes} (h : ∀ byte ∈ bytes, byte.toNat < 128) :
    parts none bytes = (bytes.map plain).map some := by
  induction bytes with
  | nil => rfl
  | cons byte rest ih =>
      have hstep : step none byte = ([some (plain byte)], none) :=
        start_of_toNat_lt (h byte (List.mem_cons_self ..))
      have hrest := ih fun other ho => h other (List.mem_cons_of_mem byte ho)
      simp only [parts, hstep, hrest]
      rfl

theorem mapM_map_some (text : List Char) : (text.map some).mapM id = some text := by
  induction text with
  | nil => rfl
  | cons c rest ih => simp [ih]

theorem decode?_of_toNat_lt {bytes : Bytes} (h : ∀ byte ∈ bytes, byte.toNat < 128) :
    decode? bytes = some (bytes.map plain) := by
  rw [decode?, parts_of_toNat_lt h, mapM_map_some]

-- The count of characters among the parts.
def valid (parts : List (Option Char)) : Nat := (parts.filterMap id).length

@[simp] theorem valid_nil : valid [] = 0 := rfl

@[simp] theorem valid_none_cons (rest : List (Option Char)) : valid (none :: rest) = valid rest :=
  rfl

@[simp] theorem valid_some_cons (c : Char) (rest : List (Option Char)) :
    valid (some c :: rest) = valid rest + 1 := rfl

@[simp] theorem valid_append (first rest : List (Option Char)) :
    valid (first ++ rest) = valid first + valid rest := by
  simp [valid]

theorem valid_start_le (byte : UInt8) : valid (start byte).1 ≤ 1 := by
  simp only [start]
  split
  · exact Nat.zero_le 1
  · split <;> simp

theorem valid_step_le (state : Option Pending) (byte : UInt8) : valid (step state byte).1 ≤ 1 := by
  cases state with
  | none => exact valid_start_le byte
  | some pending =>
      simp only [step]
      split
      · split <;> simp
      · simpa using valid_start_le byte

-- No byte completes more than one character.
theorem valid_parts_le (bytes : Bytes) (state : Option Pending) :
    valid (parts state bytes) ≤ bytes.length := by
  induction bytes generalizing state with
  | nil => cases state <;> simp [parts]
  | cons byte rest ih =>
      have hstep := valid_step_le state byte
      have hrest := ih (step state byte).2
      simp only [parts, valid_append, List.length_cons]
      omega

theorem toNat_lt_of_lead? {byte : UInt8} {pending : Pending} (h : lead? byte = some pending)
    (hm : pending.more = 0) : byte.toNat < 128 := by
  by_cases hlt : byte < 0x80
  · exact hlt
  · exfalso
    simp only [lead?, if_neg hlt] at h
    repeat' split at h
    all_goals cases h <;> cases hm

-- A byte that is a character of its own leaves nothing pending.
theorem start_of_valid {byte : UInt8} (h : valid (start byte).1 = 1) :
    byte.toNat < 128 ∧ (start byte).2 = none := by
  simp only [start] at h ⊢
  cases hl : lead? byte with
  | none => simp [hl] at h
  | some pending =>
      by_cases hm : pending.more = 0
      · simp [hm, toNat_lt_of_lead? hl hm]
      · simp [hl, hm] at h

-- Where there are as many characters as bytes, each byte is one of them.
theorem toNat_lt_of_valid {bytes : Bytes} (h : valid (parts none bytes) = bytes.length) :
    ∀ byte ∈ bytes, byte.toNat < 128 := by
  induction bytes with
  | nil => exact nofun
  | cons byte rest ih =>
      have hfirst := valid_start_le byte
      have hrest := valid_parts_le rest (start byte).2
      have hsum : valid (parts none (byte :: rest)) =
          valid (start byte).1 + valid (parts (start byte).2 rest) := by
        simp [parts, step]
      rw [hsum, List.length_cons] at h
      have hone : valid (start byte).1 = 1 := by omega
      obtain ⟨hbyte, hnone⟩ := start_of_valid hone
      rw [hnone] at h hrest
      intro other hm
      rcases List.mem_cons.mp hm with rfl | hm
      · exact hbyte
      · exact ih (by omega) other hm

theorem filterMap_of_mapM {parts : List (Option Char)} {text : List Char}
    (h : parts.mapM id = some text) : parts.filterMap id = text := by
  induction parts generalizing text with
  | nil => simpa using h
  | cons part rest ih =>
      cases part with
      | none => simp at h
      | some c =>
          simp only [List.mapM_cons, id_eq, Option.bind_eq_bind, Option.bind_some,
            Option.bind_eq_some_iff] at h
          obtain ⟨others, ho, htext⟩ := h
          cases htext
          have hcons : (some c :: rest).filterMap id = c :: rest.filterMap id := rfl
          rw [hcons, ih ho]

-- No text has more characters than bytes.
theorem length_le_of_decode? {bytes : Bytes} {text : List Char} (h : decode? bytes = some text) :
    text.length ≤ bytes.length := by
  rw [← filterMap_of_mapM h]
  exact valid_parts_le bytes none

theorem toNat_lt_of_decode? {bytes : Bytes} {text : List Char} (h : decode? bytes = some text)
    (hlen : text.length = bytes.length) : ∀ byte ∈ bytes, byte.toNat < 128 := by
  apply toNat_lt_of_valid
  rw [valid, filterMap_of_mapM h, hlen]

end BoardLink.Text.Utf8
