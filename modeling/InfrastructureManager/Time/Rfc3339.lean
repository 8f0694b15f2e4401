import InfrastructureManager.Time.Calendar

/-!
# RFC 3339 timestamps

The text of the last-sync annotation: `lastSyncTime.UTC().Format(time.RFC3339)`
writes it (`gardener_cluster_controller.go:325,382`) and
`time.Parse(time.RFC3339, ...)` reads it back (`gardener_cluster_controller.go:265`).
Formatting follows Go's `appendInt` and the layout `2006-01-02T15:04:05Z07:00` in UTC;
parsing follows the fast path `parseRFC3339` that `time.Parse` takes for this layout.
Go's general parser, which `time.Parse` falls back to when the fast path rejects a
text, accepts a few more spellings (a comma before the fraction, a one-digit hour);
here such texts are unparsable.

`parseRFC3339_formatRFC3339` is the round trip: a written instant reads back
truncated to the second, for every instant whose year has four digits.
-/

namespace InfrastructureManager

/-- The digit character of `d < 10`; `utod` of Go's time package. -/
def utod (d : Nat) : Char := Char.ofNat (48 + d)

/-- `appendInt` of Go's time package: the decimal digits of `x`, zero-padded to
`width`, after a minus sign when `x` is negative. -/
def appendInt (x : Int) (width : Nat) : List Char :=
  let u := x.natAbs
  (if x < 0 then ['-'] else []) ++
    if width = 2 ∧ u < 100 then [utod (u / 10), utod (u % 10)]
    else if width = 4 ∧ u < 10000 then
      [utod (u / 1000), utod (u / 100 % 10), utod (u / 10 % 10), utod (u % 10)]
    else List.replicate (width - (Nat.toDigits 10 u).length) '0' ++ Nat.toDigits 10 u

/-- `t.UTC().Format(time.RFC3339)`: the layout `2006-01-02T15:04:05Z07:00`, whose
zone is written `Z` in UTC. -/
def formatRFC3339 (t : Time) : String :=
  let secs := t.unixNano / 1000000000
  let date := civilFromDays (secs / 86400)
  let clock := (secs % 86400).toNat
  String.mk (appendInt date.year 4 ++ '-' :: appendInt date.month 2 ++ '-' ::
    appendInt date.day 2 ++ 'T' :: appendInt (clock / 3600 : Nat) 2 ++ ':' ::
    appendInt (clock / 60 % 60 : Nat) 2 ++ ':' :: appendInt (clock % 60 : Nat) 2 ++ ['Z'])

/-- The `parseUint` closure of Go's `parseRFC3339`: the decimal value of `s` when every
character is a digit and the value lies in `[min, max]`. -/
def parseUint (s : List Char) (min max : Nat) : Option Nat := do
  let x ← s.foldlM (fun x c => if '0' ≤ c ∧ c ≤ '9' then some (x * 10 + (c.toNat - 48)) else none) 0
  if min ≤ x ∧ x ≤ max then some x else none

/-- The fractional second after the seconds field: a `.` and a run of digits, of which
Go's `parseNanoseconds` keeps the first nine as nanoseconds. -/
def parseFraction : List Char → Nat × List Char
  | '.' :: c :: rest =>
    if c.isDigit then
      let kept := ((c :: rest).takeWhile Char.isDigit).take 9
      (kept.foldl (fun x c => x * 10 + (c.toNat - 48)) 0 * 10 ^ (9 - kept.length),
        (c :: rest).dropWhile Char.isDigit)
    else (0, '.' :: c :: rest)
  | s => (0, s)

/-- The zone of `parseRFC3339`: `Z`, or `±hh:mm`, as seconds east of UTC. -/
def parseZone : List Char → Option Int
  | ['Z'] => some 0
  | [sign, h0, h1, c3, m0, m1] => do
    let hr ← parseUint [h0, h1] 0 23
    let mm ← parseUint [m0, m1] 0 59
    if c3 = ':' ∧ sign = '+' then some ((hr * 60 + mm) * 60)
    else if c3 = ':' ∧ sign = '-' then some (-((hr * 60 + mm) * 60 : Nat))
    else none
  | _ => none

/-- `time.Date(year, month, day, hour, min, sec, nsec, time.UTC)` for fields in range. -/
def date (year : Int) (month day hour min sec nsec : Nat) : Time :=
  ⟨(daysFromCivil ⟨year, month, day⟩ * 86400 + hour * 3600 + min * 60 + sec) * 1000000000 +
    nsec⟩

/-- `time.Parse(time.RFC3339, s)` through the fast path `parseRFC3339`. The fallback to Go's
general parser is not modelled: the statements that depend on what the due check answers read
last-sync texts that `formatRFC3339` wrote, which the fast path accepts, and the others hold
whatever it answers. -/
def parseRFC3339 (s : String) : Option Time :=
  match s.toList with
  | y0 :: y1 :: y2 :: y3 :: c4 :: m0 :: m1 :: c7 :: d0 :: d1 :: c10 :: h0 :: h1 :: c13 ::
      i0 :: i1 :: c16 :: s0 :: s1 :: rest => do
    let year ← parseUint [y0, y1, y2, y3] 0 9999
    let month ← parseUint [m0, m1] 1 12
    let day ← parseUint [d0, d1] 1 (daysIn month year)
    let hour ← parseUint [h0, h1] 0 23
    let min ← parseUint [i0, i1] 0 59
    let sec ← parseUint [s0, s1] 0 59
    if c4 = '-' ∧ c7 = '-' ∧ c10 = 'T' ∧ c13 = ':' ∧ c16 = ':' then
      let (nsec, zone) := parseFraction rest
      let offset ← parseZone zone
      some ⟨(date year month day hour min sec nsec).unixNano - offset * 1000000000⟩
    else none
  | _ => none

/-- The UTC year of an instant. -/
def Time.year (t : Time) : Int := (civilFromDays (t.unixNano / 1000000000 / 86400)).year

/-- The instant truncated to its second, the precision of the RFC 3339 layout. -/
def Time.truncateSeconds (t : Time) : Time := ⟨t.unixNano / 1000000000 * 1000000000⟩

example : formatRFC3339 ⟨1700000000123456789⟩ = "2023-11-14T22:13:20Z" := by decide

/-! ### Digits -/

private theorem utod_digit (d : Nat) (h : d < 10) :
    ('0' ≤ utod d ∧ utod d ≤ '9') ∧ (utod d).toNat - 48 = d := by
  revert d; decide

private theorem appendInt_two (n : Nat) (h : n < 100) :
    appendInt n 2 = [utod (n / 10), utod (n % 10)] := by
  simp [appendInt, h, show ¬ (n : Int) < 0 by omega]

private theorem appendInt_four (y : Int) (h₀ : 0 ≤ y) (h₁ : y ≤ 9999) :
    appendInt y 4 = [utod (y.toNat / 1000), utod (y.toNat / 100 % 10),
      utod (y.toNat / 10 % 10), utod (y.toNat % 10)] := by
  have hlt : ¬ y < 0 := by omega
  have habs : y.natAbs = y.toNat := by omega
  simp [appendInt, hlt, habs, show y.toNat < 10000 by omega]

private theorem parseUint_two (n lo hi : Nat) (h : n < 100) (hlo : lo ≤ n) (hhi : n ≤ hi) :
    parseUint [utod (n / 10), utod (n % 10)] lo hi = some n := by
  have ha := utod_digit (n / 10) (by omega)
  have hb := utod_digit (n % 10) (by omega)
  simp only [parseUint, List.foldlM, if_pos ha.1, if_pos hb.1, ha.2, hb.2, Option.bind_eq_bind,
    Option.some_bind, bind, pure]
  rw [if_pos (by omega)]
  congr 1
  omega

private theorem parseUint_four (y : Nat) (h : y ≤ 9999) :
    parseUint [utod (y / 1000), utod (y / 100 % 10), utod (y / 10 % 10), utod (y % 10)] 0 9999 =
      some y := by
  have h1 := utod_digit (y / 1000) (by omega)
  have h2 := utod_digit (y / 100 % 10) (by omega)
  have h3 := utod_digit (y / 10 % 10) (by omega)
  have h4 := utod_digit (y % 10) (by omega)
  simp only [parseUint, List.foldlM, if_pos h1.1, if_pos h2.1, if_pos h3.1, if_pos h4.1,
    h1.2, h2.2, h3.2, h4.2, Option.bind_eq_bind, Option.some_bind, bind, pure]
  rw [if_pos (by omega)]
  congr 1
  omega

/-! ### Round trip -/

private theorem daysIn_le_31 (month : Nat) (year : Int) : daysIn month year ≤ 31 := by
  unfold daysIn; split <;> (try split) <;> omega

/-- The text of an instant whose year has four digits, character by character. -/
private theorem formatRFC3339_toList (t : Time) (c : Civil) (clock : Nat)
    (hc : civilFromDays (t.unixNano / 1000000000 / 86400) = c)
    (hclock : (t.unixNano / 1000000000 % 86400).toNat = clock)
    (h₀ : 0 ≤ c.year) (h₁ : c.year ≤ 9999) :
    (formatRFC3339 t).toList =
      [utod (c.year.toNat / 1000), utod (c.year.toNat / 100 % 10), utod (c.year.toNat / 10 % 10),
        utod (c.year.toNat % 10), '-', utod (c.month / 10), utod (c.month % 10), '-',
        utod (c.day / 10), utod (c.day % 10), 'T', utod (clock / 3600 / 10),
        utod (clock / 3600 % 10), ':', utod (clock / 60 % 60 / 10), utod (clock / 60 % 60 % 10),
        ':', utod (clock % 60 / 10), utod (clock % 60 % 10), 'Z'] := by
  have hv := civilFromDays_valid (t.unixNano / 1000000000 / 86400)
  rw [hc] at hv
  have hs : t.unixNano / 1000000000 % 86400 < 86400 := Int.emod_lt_of_pos _ (by decide)
  have hday : c.day < 100 := (hv.2.2.2.trans (daysIn_le_31 c.month c.year)).trans_lt (by decide)
  simp only [formatRFC3339, String.toList, hc, hclock]
  rw [appendInt_four _ h₀ h₁, appendInt_two _ (by omega), appendInt_two _ hday,
    appendInt_two _ (by omega), appendInt_two _ (by omega), appendInt_two _ (by omega)]
  rfl

/-- Every instant whose UTC year has four digits reads back from its RFC 3339 text,
truncated to the second. -/
theorem parseRFC3339_formatRFC3339 (t : Time) (h₀ : 0 ≤ t.year) (h₁ : t.year ≤ 9999) :
    parseRFC3339 (formatRFC3339 t) = some t.truncateSeconds := by
  unfold Time.year at h₀ h₁
  have hv := civilFromDays_valid (t.unixNano / 1000000000 / 86400)
  have hrt := daysFromCivil_civilFromDays (t.unixNano / 1000000000 / 86400)
  have hs0 : 0 ≤ t.unixNano / 1000000000 % 86400 := Int.emod_nonneg _ (by decide)
  have hs1 : t.unixNano / 1000000000 % 86400 < 86400 := Int.emod_lt_of_pos _ (by decide)
  have hsec := Int.emod_add_ediv (t.unixNano / 1000000000) 86400
  generalize hc : civilFromDays (t.unixNano / 1000000000 / 86400) = c at hv hrt h₀ h₁
  generalize hclock : (t.unixNano / 1000000000 % 86400).toNat = clock
  have hyear : ((c.year.toNat : Nat) : Int) = c.year := by omega
  rw [parseRFC3339, formatRFC3339_toList t c clock hc hclock h₀ h₁]
  have hday : c.day < 100 := (hv.2.2.2.trans (daysIn_le_31 c.month c.year)).trans_lt (by decide)
  simp only [parseUint_four _ (by omega : c.year.toNat ≤ 9999), hyear, Option.bind_eq_bind,
    Option.some_bind, parseUint_two _ _ _ (by omega : c.month < 100) hv.1 hv.2.1,
    parseUint_two _ _ _ hday hv.2.2.1 hv.2.2.2, parseUint_two (clock / 3600) 0 23 (by omega)
      (Nat.zero_le _) (by omega), parseUint_two (clock / 60 % 60) 0 59 (by omega) (Nat.zero_le _)
      (by omega), parseUint_two (clock % 60) 0 59 (by omega) (Nat.zero_le _) (by omega),
    and_self, if_true, show parseFraction ['Z'] = (0, ['Z']) from rfl,
    show parseZone ['Z'] = some 0 from rfl, date, hrt, Time.truncateSeconds]
  congr 2
  omega

end InfrastructureManager
