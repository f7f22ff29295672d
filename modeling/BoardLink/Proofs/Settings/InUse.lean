import BoardLink.Proofs.Settings.Saving
import BoardLink.Settings.Reach

-- Settings that were made by setting one key after another, and the way to the board that comes of
-- them: every key has the last value it was given, and no value but an empty endpoint is in the way.
namespace BoardLink.Settings

open Text

-- A call gives a key and a text.
def attempt (settings : Settings) (call : String × String) : Settings :=
  (settings.set call.1 call.2).2

def setAll (calls : List (String × String)) : Settings := calls.foldl attempt ⟨none, none, none⟩

-- The texts that give a number of milliseconds.
def IsTimeout (text : String) (ms : UInt64) : Prop :=
  ms ≠ 0 ∧ (Numeral.Written 10 text.toList ms.toNat ∨
    ∃ digits, text.toList = '+' :: digits ∧ Numeral.Written 10 digits ms.toNat)

def IsConvention (text : String) (convention : BatteryConvention) : Prop :=
  BatteryConvention.ofText text = .ok convention

-- The value that a key has after some calls. Texts that mean no value for it count as no call.
inductive LastSet {α : Type} (key : String) (Means : String → α → Prop) (fallback : α)
    (calls : List (String × String)) : α → Prop where
  | never (h : ∀ text, (key, text) ∈ calls → ∀ value, ¬ Means text value) :
      LastSet key Means fallback calls fallback
  | last {before after : List (String × String)} {text : String} {value : α}
      (split : calls = before ++ (key, text) :: after) (means : Means text value)
      (h : ∀ later, (key, later) ∈ after → ∀ other, ¬ Means later other) :
      LastSet key Means fallback calls value

section LastSet

variable {α : Type} {key other text : String} {Means : String → α → Prop} {fallback value : α}
  {calls : List (String × String)}

theorem LastSet.set (calls : List (String × String)) (h : Means text value) :
    LastSet key Means fallback (calls ++ [(key, text)]) value :=
  .last rfl h nofun

-- A call with another key, or with a text that means nothing, makes no difference.
theorem LastSet.pass (h : LastSet key Means fallback calls value)
    (hcall : other = key → ∀ value, ¬ Means text value) :
    LastSet key Means fallback (calls ++ [(other, text)]) value := by
  have hlast : ∀ later, (key, later) ∈ [(other, text)] → ∀ value, ¬ Means later value := by
    intro later hm
    obtain ⟨rfl, rfl⟩ := Prod.mk.inj (List.mem_singleton.mp hm)
    exact hcall rfl
  cases h with
  | never hnever =>
      refine .never fun later hm => ?_
      rcases List.mem_append.mp hm with hm | hm
      · exact hnever later hm
      · exact hlast later hm
  | @last before after accepted _ hsplit hmeans hlater =>
      have hcalls : calls ++ [(other, text)] =
          before ++ (key, accepted) :: (after ++ [(other, text)]) := by
        rw [hsplit, List.append_assoc, List.cons_append]
      refine .last hcalls hmeans fun later hm => ?_
      rcases List.mem_append.mp hm with hm | hm
      · exact hlater later hm
      · exact hlast later hm

theorem LastSet.elsewhere (h : LastSet key Means fallback calls value) (hkey : other ≠ key)
    (text : String) : LastSet key Means fallback (calls ++ [(other, text)]) value :=
  h.pass fun heq => absurd heq hkey

end LastSet

-- Each setting, with its default in place of a gap, is the last that was accepted for its key.
structure Follows (calls : List (String × String)) (settings : Settings) : Prop where
  endpoint : LastSet SettingsKey.endpoint.name (fun text value => text = value)
    Reach.defaultEndpoint calls (settings.endpoint.getD Reach.defaultEndpoint)
  timeoutMs : LastSet SettingsKey.timeoutMs.name IsTimeout Reach.defaultTimeoutMs calls
    (settings.timeoutMs.getD Reach.defaultTimeoutMs)
  battery : LastSet SettingsKey.battery.name IsConvention .payloadNonZero calls
    (settings.battery.getD .payloadNonZero)
  nonzero : settings.timeoutMs.getD Reach.defaultTimeoutMs ≠ 0

theorem follows_nothing : Follows [] ⟨none, none, none⟩ where
  endpoint := .never nofun
  timeoutMs := .never nofun
  battery := .never nofun
  nonzero := by decide

theorem isTimeout_iff {text : String} {ms : UInt64} :
    IsTimeout text ms ↔ ms ≠ 0 ∧ Numeral.read 10 maxTimeout text.toList = .ok ms.toNat := by
  have hle : ms.toNat ≤ maxTimeout := Nat.le_of_lt_succ ms.toNat_lt
  rw [IsTimeout, Numeral.read_eq_ok_iff (by decide), and_iff_right hle]

variable {calls : List (String × String)} {settings updated : Settings} {key text : String}

theorem Follows.accept {known : SettingsKey} (h : Follows calls settings)
    (hreplaces : Replaces settings text known updated) :
    Follows (calls ++ [(known.name, text)]) updated := by
  cases hreplaces with
  | endpoint =>
      exact ⟨.set calls rfl, h.timeoutMs.elsewhere (by decide) text,
        h.battery.elsewhere (by decide) text, h.nonzero⟩
  | timeoutMs hread hnonzero =>
      exact ⟨h.endpoint.elsewhere (by decide) text,
        .set calls (isTimeout_iff.mpr ⟨hnonzero, hread⟩), h.battery.elsewhere (by decide) text,
        hnonzero⟩
  | battery hread =>
      exact ⟨h.endpoint.elsewhere (by decide) text, h.timeoutMs.elsewhere (by decide) text,
        .set calls hread, h.nonzero⟩

-- A text is refused only if it means nothing for its key.
theorem Follows.reject {error : SettingsError} (h : Follows calls settings)
    (hrejects : Rejects text key error) : Follows (calls ++ [(key, text)]) settings := by
  cases hrejects with
  | unknownKey hunknown =>
      exact ⟨h.endpoint.elsewhere (hunknown .endpoint).symm text,
        h.timeoutMs.elsewhere (hunknown .timeoutMs).symm text,
        h.battery.elsewhere (hunknown .battery).symm text, h.nonzero⟩
  | invalidTimeout hread =>
      refine ⟨h.endpoint.elsewhere (by decide) text, h.timeoutMs.pass fun _ ms hms => ?_,
        h.battery.elsewhere (by decide) text, h.nonzero⟩
      rw [isTimeout_iff, hread] at hms
      cases hms.2
  | zeroTimeout hread =>
      refine ⟨h.endpoint.elsewhere (by decide) text, h.timeoutMs.pass fun _ ms hms => ?_,
        h.battery.elsewhere (by decide) text, h.nonzero⟩
      rw [isTimeout_iff, hread, Except.ok.injEq] at hms
      exact hms.1 (UInt64.toNat_inj.mp hms.2.symm)
  | invalidConvention hread =>
      refine ⟨h.endpoint.elsewhere (by decide) text, h.timeoutMs.elsewhere (by decide) text,
        h.battery.pass fun _ convention hmeans => ?_, h.nonzero⟩
      rw [IsConvention, hread] at hmeans
      cases hmeans

theorem Follows.attempt (h : Follows calls settings) (call : String × String) :
    Follows (calls ++ [call]) (settings.attempt call) := by
  obtain ⟨key, text⟩ := call
  rcases set_cases settings key text with
    ⟨known, updated, rfl, hreplaces, hset⟩ | ⟨error, hrejects, hset⟩
  · rw [Settings.attempt, hset]
    exact h.accept hreplaces
  · rw [Settings.attempt, hset]
    exact h.reject hrejects

theorem follows_setAll (calls : List (String × String)) : Follows calls (setAll calls) := by
  induction calls using List.reverseRecOn with
  | nil => exact follows_nothing
  | append_singleton calls call ih =>
      rw [setAll, List.foldl_append]
      exact ih.attempt call

theorem build_of_empty {reach : Reach} (h : reach.endpoint = "") (host : Host) :
    (reach.build host).1 = .error .emptyEndpoint := by
  simp only [Reach.build, Reach.check, h, if_true]

theorem build_of_check {reach : Reach} (hendpoint : reach.endpoint ≠ "")
    (htimeout : reach.timeoutMs ≠ some 0) (host : Host) :
    ∃ after, reach.build host = (.ok reach, after) := by
  simp only [Reach.build, Reach.check, if_neg hendpoint, if_neg htimeout]
  exact ⟨_, rfl⟩

-- Whatever is set in whatever order, an executor comes of it unless the last endpoint is the empty
-- text. It has for each key what was last accepted, and the default if nothing was.
theorem accepted_settings_in_use (calls : List (String × String)) (host : Host) :
    ∃ endpoint timeoutMs battery,
      LastSet "endpoint" (fun text value => text = value) "/dev/socket/iosocket" calls endpoint ∧
      LastSet "timeout_ms" IsTimeout 1000 calls timeoutMs ∧
      LastSet "battery_convention" IsConvention .payloadNonZero calls battery ∧
      (endpoint ≠ "" → ∃ reach after,
        (Reach.ofSettings (setAll calls)).build host = (.ok reach, after) ∧
        reach = ⟨endpoint, some timeoutMs, battery⟩ ∧
        reach.executor = Host.executor ⟨endpoint⟩ (some timeoutMs) battery) ∧
      (endpoint = "" →
        ((Reach.ofSettings (setAll calls)).build host).1 = .error .emptyEndpoint) := by
  have hfollows := follows_setAll calls
  refine ⟨_, _, _, hfollows.endpoint, hfollows.timeoutMs, hfollows.battery, ?_, ?_⟩
  · intro hendpoint
    have htimeout : (Reach.ofSettings (setAll calls)).timeoutMs ≠ some 0 := fun hzero =>
      hfollows.nonzero (Option.some_inj.mp hzero)
    obtain ⟨after, hbuild⟩ := build_of_check hendpoint htimeout host
    exact ⟨_, after, hbuild, rfl, rfl⟩
  · intro hendpoint
    exact build_of_empty hendpoint host

-- The empty text is accepted, and then there is no executor.
theorem empty_endpoint_is_accepted : setAll [("endpoint", "")] = ⟨some "", none, none⟩ ∧
    ∀ host, ((Reach.ofSettings (setAll [("endpoint", "")])).build host).1 =
      .error .emptyEndpoint :=
  ⟨by decide, fun host => build_of_empty rfl host⟩

end BoardLink.Settings
