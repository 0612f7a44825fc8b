import MinimalRouter.Config.Texts
import MinimalRouter.Firewall.Generate
import MinimalRouter.Lib.Timeline

namespace MinimalRouter.Services

open Goish Config Firewall Lib Lib.Checks

section Calendar

variable (t : Time)

def localSecond : Int := t.unix + t.offset

def localDay : Int := localSecond t / 86400

def secondOfDay : Nat := (localSecond t % 86400).toNat

def hour : Nat := secondOfDay t / 3600

def minute : Nat := secondOfDay t / 60 % 60

def dayName (day : Int) : String := supportedScheduleDays.getD ((day + 3) % 7).toNat ""

def weekdayName : String := dayName (localDay t)

def midnight (offset day : Int) : Int := (day * 86400 - offset) * 1000000000

end Calendar

def scheduleMinute (value : String) : Int :=
  let parts := split ':' value
  (parts[0]?.bind goAtoi).getD 0 * 60 + (parts[1]?.bind goAtoi).getD 0

def windowsOf (windows : List (String × List AccessWindow)) (day : String) : List AccessWindow :=
  (windows.lookup day).getD []

def scheduleAllowed (windows : List (String × List AccessWindow)) (now : Time) : Bool :=
  let minute : Int := hour now * 60 + minute now
  (windowsOf windows (weekdayName now)).any fun w =>
    let stop := if w.end = "23:59" then 1440 else scheduleMinute w.end
    scheduleMinute w.start ≤ minute && minute < stop

def boundaries (windows : List (String × List AccessWindow)) (now : Time) : List Int :=
  (List.range 9).flatMap fun (k : Nat) =>
    let day := midnight now.offset (localDay now + k)
    day :: (windowsOf windows (weekdayName ⟨day, now.offset, none⟩)).flatMap fun w =>
      [scheduleMinute w.start, scheduleMinute w.end].map fun minute =>
        let minute := if minute = 1439 ∧ w.end = "23:59" then 1440 else minute
        day + minute * 60000000000

structure ProfileStatus where
  (id name : String)
  (ipAddresses services : List String)
  state : String := ""
  allowedNow : Option Bool := none
  nextChangeAt : Option Time := none
  nextState : String := ""
  missingReservations : List String
  basis : String
  enforcementVerified : Bool := false

def profileStatus (cfg : SystemConfig) (now : Time) (profile : DeviceProfile) : ProfileStatus :=
  let reserved := cfg.dhcp.staticLeases.items.map (·.ipAddress)
  let status : ProfileStatus := {
    id := profile.id
    name := profile.name
    ipAddresses := profile.ipAddresses.items
    services := profile.services.items
    basis := "configured_schedule"
    missingReservations := profile.ipAddresses.items.filter (!reserved.contains ·) }
  if ¬profile.enabled then { status with state := "paused" }
  else if ¬cfg.adguard.enabled then { status with state := "filter_off" }
  else
    let windows := effectiveDayWindows profile.schedule
    let allowed := scheduleAllowed windows now
    let status := { status with
      allowedNow := some allowed
      state := if allowed then "allowed" else "blocked" }
    let found := ((boundaries windows now).mergeSort (· ≤ ·)).find? fun moment =>
      decide (now.wall < moment) && scheduleAllowed windows ⟨moment, now.offset, none⟩ != allowed
    match found with
    | some moment => { status with
        nextChangeAt := some ⟨moment, now.offset, none⟩
        nextState := if allowed then "blocked" else "allowed" }
    | none => status

def deviceProfileStatuses (cfg : SystemConfig) (now : Time) : List ProfileStatus :=
  cfg.adguard.deviceProfiles.items.map (profileStatus cfg now)

theorem mem_of_windowsOf (h : w ∈ windowsOf windows day) : ∃ entry ∈ windows, w ∈ entry.2 := by
  unfold windowsOf at h
  cases hlookup : windows.lookup day with
  | none => simp [hlookup] at h
  | some ws =>
    rw [hlookup, Option.getD_some] at h
    obtain ⟨_, _, rfl, -⟩ := List.lookup_eq_some_iff.mp hlookup
    exact ⟨(day, ws), by simp, h⟩

theorem checked_windows (h : Accepted env c) (hprofile : profile ∈ c.adguard.deviceProfiles.items) :
    ∀ w ∈ windowsOf (effectiveDayWindows profile.schedule) day, ∃ start stop, Checked w start stop := by
  have hprofiles := h.valid.profiles
  unfold validateDeviceProfiles at hprofiles
  obtain ⟨s, i, hi⟩ := eachFrom_eq_nil (List.append_eq_nil_iff.mp hprofiles).2 hprofile
  unfold deviceProfileErrors at hi
  obtain ⟨hdays, hweekdays, hweekend⟩ := windows_of_schedule (fun _ _ => checked_of_validateWindows)
    (List.append_eq_nil_iff.mp hi).2
  intro w hw
  obtain ⟨entry, hentry, hw⟩ := mem_of_windowsOf hw
  have hall : ∀ w ∈ [AccessWindow.mk "00:00" "23:59"], ∃ start stop, Checked w start stop :=
    List.forall_mem_singleton.mpr ⟨0, 1439, by decide, by decide⟩
  exact forall_effectiveDayWindows (Q := fun ws => ∀ w ∈ ws, ∃ start stop, Checked w start stop)
    hall hdays hweekdays hweekend entry hentry w hw

theorem goAtoi_digits (hne : cs ≠ []) (hdigits : ∀ c ∈ cs, isAsciiDigit c = true)
    (hsmall : decimalValue cs < 2 ^ 63) :
    goAtoi (String.ofList cs) = some (decimalValue cs : Int) := by
  have hhead : ∀ c, cs.head? = some c → isAsciiDigit c = true :=
    fun c hc => hdigits c (List.mem_of_mem_head? hc)
  have hplus : (cs.head? == some '+') = false := by
    refine beq_eq_false_iff_ne.mpr fun heq => absurd (hhead _ heq) (by decide)
  have hminus : (cs.head? == some '-') = false := by
    refine beq_eq_false_iff_ne.mpr fun heq => absurd (hhead _ heq) (by decide)
  unfold goAtoi
  simp only [String.toList_ofList, hplus, hminus, Bool.or_self, Bool.false_eq_true, if_false,
    List.isEmpty_eq_false_iff.mpr hne, List.all_eq_true.mpr hdigits, Bool.not_true, Bool.or_eq_true,
    decide_eq_true_eq]
  rw [if_neg (by omega)]

theorem splitOn_clock (hdigits : ∀ c ∈ hs ++ ms, isAsciiDigit c = true) :
    (hs ++ ':' :: ms).splitOn ':' = [hs, ms] := by
  have hcolon : ':' ∉ hs ++ ms := fun hmem => absurd (hdigits _ hmem) (by decide)
  rw [List.mem_append, not_or] at hcolon
  rw [Segments.splitOn_append, Segments.splitOn_of_not_mem hcolon.1,
    Segments.splitOn_of_not_mem hcolon.2]
  rfl

theorem scheduleMinute_of_parseClock (hs : parseClock s = some (h, m)) :
    scheduleMinute s = h * 60 + m := by
  obtain ⟨hour, minute, htext, ⟨hne, hne'⟩, hdigits, ⟨rfl, rfl⟩, _⟩ := parseClock_eq_some hs
  have hparts : split ':' s = [String.ofList hour, String.ofList minute] := by
    rw [split, htext, splitOn_clock hdigits]
    rfl
  obtain ⟨hdigits, hdigits'⟩ := List.forall_mem_append.mp hdigits
  unfold scheduleMinute
  rw [hparts]
  change ((goAtoi (String.ofList hour)).getD 0) * 60 + ((goAtoi (String.ofList minute)).getD 0) = _
  rw [goAtoi_digits hne hdigits (by omega), goAtoi_digits hne' hdigits' (by omega)]
  rfl

theorem scheduleMinute_of_checked {start stop : Nat} (hw : Checked w start stop) :
    scheduleMinute w.start = start ∧ scheduleMinute w.end = stop ∧ stop < 1440 := by
  obtain ⟨h, m, _, _, hstart, hstop, rfl, rfl⟩ := hw.clocks
  obtain ⟨_, _, -, -, -, -, _⟩ := parseClock_eq_some hstop
  rw [scheduleMinute_of_parseClock hstart, scheduleMinute_of_parseClock hstop]
  exact ⟨by push_cast; rfl, by push_cast; rfl, by omega⟩

def minuteNumber (t : Time) : Int := (t.wall + t.offset * 1000000000) / 60000000000

theorem localDay_eq : localDay t = minuteNumber t / 1440 := by
  unfold localDay localSecond minuteNumber Time.unix
  omega

theorem hour_minute_eq : ((hour t * 60 + minute t : Nat) : Int) = minuteNumber t % 1440 := by
  unfold hour minute secondOfDay localSecond minuteNumber Time.unix
  omega

def AccessWindow.covers (w : AccessWindow) (minute : Int) : Bool :=
  let stop := if w.end = "23:59" then 1440 else scheduleMinute w.end
  scheduleMinute w.start ≤ minute && minute < stop

def openAt (windows : List (String × List AccessWindow)) (n : Int) : Bool :=
  (windowsOf windows (dayName (n / 1440))).any (AccessWindow.covers · (n % 1440))

theorem scheduleAllowed_eq : scheduleAllowed windows t = openAt windows (minuteNumber t) := by
  unfold scheduleAllowed openAt weekdayName
  rw [localDay_eq, ← hour_minute_eq]
  push_cast
  rfl

theorem dayName_add_week (day : Int) : dayName (day + 7) = dayName day := by
  unfold dayName
  congr 2
  omega

theorem openAt_add_week : openAt windows (n + 10080) = openAt windows n := by
  unfold openAt
  have hday : (n + 10080) / 1440 = n / 1440 + 7 := by omega
  have hminute : (n + 10080) % 1440 = n % 1440 := by omega
  rw [hday, hminute, dayName_add_week]

theorem exists_window_of_openAt (hday : n % 1440 ≠ 0) (h : openAt windows (n - 1) ≠ openAt windows n) :
    ∃ w ∈ windowsOf windows (dayName (n / 1440)),
      n % 1440 = scheduleMinute w.start ∨ w.end ≠ "23:59" ∧ n % 1440 = scheduleMinute w.end := by
  unfold openAt at h
  have hsame : (n - 1) / 1440 = n / 1440 := by omega
  have hbefore : (n - 1) % 1440 = n % 1440 - 1 := by omega
  rw [hsame, hbefore] at h
  by_contra hnone
  simp only [not_exists, not_and, not_or] at hnone
  have hcovers : ∀ w ∈ windowsOf windows (dayName (n / 1440)),
      AccessWindow.covers w (n % 1440 - 1) = AccessWindow.covers w (n % 1440) := by
    intro w hw
    obtain ⟨_, hstop⟩ := hnone w hw
    unfold AccessWindow.covers
    rw [Bool.eq_iff_iff]
    simp only [Bool.and_eq_true, decide_eq_true_eq]
    by_cases hlast : w.end = "23:59"
    · simp only [hlast, if_true]
      omega
    have hstop := hstop hlast
    simp only [hlast, if_false]
    omega
  refine h (Bool.eq_iff_iff.mpr ?_)
  simp only [List.any_eq_true]
  exact exists_congr fun w => and_congr_right fun hw => by rw [hcovers w hw]

def allowedAt (windows : List (String × List AccessWindow)) (offset moment : Int) : Bool :=
  scheduleAllowed windows ⟨moment, offset, none⟩

theorem periodic_allowedAt (offset : Int) :
    Function.Periodic (allowedAt windows offset) (10080 * 60000000000) := by
  intro moment
  have hweek : minuteNumber ⟨moment + 10080 * 60000000000, offset, none⟩ =
      minuteNumber ⟨moment, offset, none⟩ + 10080 := by
    unfold minuteNumber
    dsimp only
    omega
  unfold allowedAt
  rw [scheduleAllowed_eq, scheduleAllowed_eq, hweek, openAt_add_week]

theorem mem_boundaries
    (hchecked : ∀ day, ∀ w ∈ windowsOf windows day, ∃ start stop, Checked w start stop)
    (hafter : now.wall < moment) (hwithin : moment ≤ now.wall + 10080 * 60000000000)
    (h : allowedAt windows now.offset (moment - 1) ≠ allowedAt windows now.offset moment) :
    moment ∈ boundaries windows now := by
  unfold allowedAt at h
  rw [scheduleAllowed_eq, scheduleAllowed_eq] at h
  generalize hn : minuteNumber ⟨moment, now.offset, none⟩ = n at h
  have hprev : minuteNumber ⟨moment - 1, now.offset, none⟩ = n - 1 ∧
      moment = n * 60000000000 - now.offset * 1000000000 := by
    have hne : minuteNumber ⟨moment - 1, now.offset, none⟩ ≠ n := fun heq => h (by rw [heq])
    unfold minuteNumber at hn hne ⊢
    dsimp only at hn hne ⊢
    omega
  obtain ⟨hprev, hmoment⟩ := hprev
  rw [hprev] at h
  have hfirst : localDay now ≤ n / 1440 ∧ n / 1440 ≤ localDay now + 8 := by
    rw [localDay_eq]
    unfold minuteNumber
    omega
  obtain ⟨k, _⟩ := Int.eq_ofNat_of_zero_le (Int.sub_nonneg.mpr hfirst.1)
  have hday : n / 1440 = localDay now + k := by omega
  unfold boundaries
  refine List.mem_flatMap.mpr ⟨k, List.mem_range.mpr (by omega), ?_⟩
  dsimp only
  rw [← hday]
  have hname : weekdayName ⟨midnight now.offset (n / 1440), now.offset, none⟩ = dayName (n / 1440) := by
    unfold weekdayName
    rw [localDay_eq]
    congr 1
    unfold minuteNumber midnight
    dsimp only
    omega
  rw [hname]
  by_cases hstart : n % 1440 = 0
  · refine List.mem_cons.mpr (.inl ?_)
    unfold midnight
    omega
  obtain ⟨w, hw, hedge⟩ := exists_window_of_openAt hstart h
  obtain ⟨start, stop, hcheck⟩ := hchecked _ w hw
  obtain ⟨_, _, _⟩ := scheduleMinute_of_checked hcheck
  have horder := hcheck.order
  refine List.mem_cons_of_mem _ (List.mem_flatMap.mpr ⟨w, hw, List.mem_map.mpr ?_⟩)
  rcases hedge with hedge | ⟨_, hedge⟩
  · refine ⟨scheduleMinute w.start, by simp, ?_⟩
    rw [if_neg (by omega), hmoment]
    unfold midnight
    omega
  refine ⟨scheduleMinute w.end, by simp, ?_⟩
  rw [if_neg (by tauto), hmoment]
  unfold midnight
  omega

theorem nextChangeAt_eq (hon : c.adguard.enabled = true) (henabled : profile.enabled = true)
    (now : Time) : (profileStatus c now profile).nextChangeAt =
      (Timeline.firstChange (allowedAt (effectiveDayWindows profile.schedule) now.offset) now.wall
        ((boundaries (effectiveDayWindows profile.schedule) now).mergeSort (· ≤ ·))).map
          fun moment => ⟨moment, now.offset, none⟩ := by
  have hsearch : (fun moment => decide (now.wall < moment) &&
      scheduleAllowed (effectiveDayWindows profile.schedule) ⟨moment, now.offset, none⟩ !=
        scheduleAllowed (effectiveDayWindows profile.schedule) now) =
      fun moment => decide (moment ∈ Timeline.changes
        (allowedAt (effectiveDayWindows profile.schedule) now.offset) now.wall) := by
    funext moment
    rw [Bool.eq_iff_iff, Bool.and_eq_true, decide_eq_true_eq, bne_iff_ne, decide_eq_true_eq]
    rfl
  unfold profileStatus Timeline.firstChange
  simp only [henabled, hon, not_true_eq_false, if_false, hsearch]
  split
  next moment hmoment => rw [hmoment, Option.map_some]
  next hnone => rw [hnone, Option.map_none]

theorem next_change_announced {previous : Option SystemConfig}
    (h : validateLiveCandidate (releaseRules env) c previous = .ok ()) (hon : c.adguard.enabled = true)
    (now : Time) {i : Nat} {profile : DeviceProfile}
    (hprofile : c.adguard.deviceProfiles.items[i]? = some profile) (henabled : profile.enabled = true) :
    ∃ status, (deviceProfileStatuses c now)[i]? = some status ∧
      (∀ change, status.nextChangeAt = some change → change.offset = now.offset ∧
        IsLeast {moment | now.wall < moment ∧
          scheduleAllowed (effectiveDayWindows profile.schedule) ⟨moment, now.offset, none⟩ ≠
            scheduleAllowed (effectiveDayWindows profile.schedule) now} change.wall) ∧
      (status.nextChangeAt = none ↔ ∀ moment, now.wall < moment →
        scheduleAllowed (effectiveDayWindows profile.schedule) ⟨moment, now.offset, none⟩ =
          scheduleAllowed (effectiveDayWindows profile.schedule) now) := by
  have haccepted := accepted_of_live h
  have hmem := List.mem_of_getElem? hprofile
  generalize hwindows : effectiveDayWindows profile.schedule = windows
  have hlisted : ∀ moment, now.wall < moment → moment ≤ now.wall + 10080 * 60000000000 →
      allowedAt windows now.offset (moment - 1) ≠ allowedAt windows now.offset moment →
        moment ∈ (boundaries windows now).mergeSort (· ≤ ·) := fun moment hafter hwithin hchange =>
    List.mem_mergeSort.mpr
      (mem_boundaries (fun _ => hwindows ▸ checked_windows haccepted hmem) hafter hwithin hchange)
  have hsorted : ((boundaries windows now).mergeSort (· ≤ ·)).Pairwise (· ≤ ·) :=
    List.pairwise_mergeSort' _ _
  have hnext := hwindows ▸ nextChangeAt_eq hon henabled now
  refine ⟨profileStatus c now profile, ?_, fun change hchange => ?_, ?_⟩
  · rw [deviceProfileStatuses, List.getElem?_map, hprofile, Option.map_some]
  · rw [hnext, Option.map_eq_some_iff] at hchange
    obtain ⟨moment, hmoment, rfl⟩ := hchange
    exact ⟨rfl, Timeline.isLeast_firstChange (periodic_allowedAt _) (by decide) hsorted hlisted hmoment⟩
  rw [hnext, Option.map_eq_none_iff,
    Timeline.firstChange_eq_none (periodic_allowedAt _) (by decide) hlisted,
    Set.eq_empty_iff_forall_notMem]
  refine forall_congr' fun moment => ?_
  rw [Timeline.mem_changes, not_and, not_not]
  rfl

def sampleProfile : DeviceProfile :=
  { id := "kids", name := "Kids", ipAddresses := .of ["192.168.1.50"], services := .of ["youtube"]
    schedule := {
      weekdayWindows := .of [⟨"8:00", "12:00"⟩, ⟨"18:30", "23:59"⟩], weekendMode := "all_day" }
    enabled := true }

def blockRule : FirewallRule :=
  { id := "no-telnet", name := "No telnet", action := "deny", direction := "forward", protocol := "tcp"
    dstPort := 23, enabled := true }

def profileConfig : SystemConfig :=
  { sampleConfig with
    adguard := { sampleConfig.adguard with enabled := true, deviceProfiles := .of [sampleProfile] }
    firewall := { sampleConfig.firewall with customRules := .of [blockRule] } }

theorem validateProfileSchedule_sampleProfile (field : String) :
    validateProfileSchedule field sampleProfile.schedule = [] := by
  have hwindows (field : String) :
      validateWindows field sampleProfile.schedule.weekdayWindows.items = [] := by
    unfold validateWindows
    -- merge sort does not compute, but the windows are in order
    rw [List.mergeSort_of_pairwise (by decide)]
    rfl
  unfold validateProfileSchedule
  rw [hwindows]
  rfl

theorem live_profileConfig :
    validateLiveCandidate (releaseRules samplePlatform) profileConfig none = .ok () := by
  have hprofiles : validateDeviceProfiles samplePlatform profileConfig = [] := by
    unfold validateDeviceProfiles
    change _ ++ _ ++ ((deviceProfileErrors samplePlatform profileConfig ([], []) 0 sampleProfile).2 ++ []) = []
    unfold deviceProfileErrors
    dsimp only
    rw [validateProfileSchedule_sampleProfile]
    decide +kernel
  have hvalid : (releaseRules samplePlatform).validate profileConfig = .ok () := by
    rw [releaseRules_validate]
    unfold validationErrors
    rw [hprofiles]
    decide +kernel
  unfold validateLiveCandidate
  rw [hvalid]
  decide +kernel

theorem next_change_announced_profileConfig :
    ∃ status, (deviceProfileStatuses profileConfig Time.zero)[0]? = some status ∧
      (∀ change, status.nextChangeAt = some change → change.offset = Time.zero.offset ∧
        IsLeast {moment : Int | Time.zero.wall < moment ∧
          scheduleAllowed (effectiveDayWindows sampleProfile.schedule)
              ⟨moment, Time.zero.offset, none⟩ ≠
            scheduleAllowed (effectiveDayWindows sampleProfile.schedule) Time.zero} change.wall) ∧
      (status.nextChangeAt = none ↔ ∀ moment, Time.zero.wall < moment →
        scheduleAllowed (effectiveDayWindows sampleProfile.schedule)
            ⟨moment, Time.zero.offset, none⟩ =
          scheduleAllowed (effectiveDayWindows sampleProfile.schedule) Time.zero) :=
  next_change_announced live_profileConfig rfl Time.zero rfl rfl

end MinimalRouter.Services
