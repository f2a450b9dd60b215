import CertMint.Log.Record
import CertMint.Proofs.Calendar
import CertMint.Proofs.JsonReading

/-! # What the line of a log record tells

The line of a record that can be told is one line of JSON, and reading it gives the record back: its level, its
logger, its message, where it was made, its data and its fault. There is no line for a record that was made before
the years of the calendar or after them, as local clocks count them, nor for one whose data are nested too deep to
be copied.
-/

namespace CertMint.Log

open Json Keyed

/-! ## Times that are shown -/

section Clock

variable {zone : Zone} {x : Binary64} {seconds micros shown : Int}

/-- The first second of the year 1, since 1970. -/
def firstSecond : Int := -62135596800

/-- The first second after the year 9999, since 1970. -/
def endSecond : Int := 253402300800

/-- Seconds since 1970 that are in the years of the calendar. -/
def InYears (shown : Int) : Prop := firstSecond ≤ shown ∧ shown < endSecond

/-- What local clocks show at a second is in the years of the calendar, and so is what they show a day before, and
    what they show as much earlier as they were set back in that day, if they were. -/
structure Shown (zone : Zone) (seconds : Int) : Prop where
  now : InYears (seconds + zone seconds)
  dayBefore : InYears (seconds - 86400 + zone (seconds - 86400))
  earlier {back : Int} (setBack : zone seconds = zone (seconds - 86400) - back) (positive : 0 < back) :
    InYears (seconds - back + zone (seconds - back))

/-- Seconds that are a moment on local clocks. -/
def Stamped (zone : Zone) (x : Binary64) : Prop :=
  ∃ seconds micros, splitSeconds x = .ok (seconds, micros) ∧ Shown zone seconds

theorem yearOfDay_iff (days : Int) :
    1 ≤ yearOfDay days ∧ yearOfDay days ≤ 9999 ↔ 0 ≤ days ∧ days < 3652059 := by
  have low := Calendar.one_le_yearOf (days % 146097).toNat
  have high : (Calendar.yearOf (days % 146097).toNat).1 < 401 := by
    apply Calendar.yearOf_lt
    have last : Calendar.daysBeforeYear 401 = 146097 := rfl
    omega
  have last : (Calendar.yearOf (days % 146097).toNat).1 < 400 ↔ (days % 146097).toNat < 145731 := by
    have start : Calendar.daysBeforeYear 400 = 145731 := rfl
    constructor
    · intro before
      by_contra after
      have := Calendar.le_yearOf (start ▸ Nat.not_lt.mp after)
      omega
    · intro before
      exact Calendar.yearOf_lt (start ▸ before)
  unfold yearOfDay
  omega

theorem checkYear_eq_ok {year : Int} (checked : checkYear seconds = .ok year) :
    (1 ≤ year ∧ year ≤ 9999 ↔ 1 ≤ yearOfDay (seconds / 86400 + epochDay) ∧
      yearOfDay (seconds / 86400 + epochDay) ≤ 9999) := by
  unfold checkYear at checked
  dsimp only at checked
  generalize yearOfDay (seconds / 86400 + epochDay) = shown at checked ⊢
  split at checked
  · cases checked
  · obtain rfl := Except.ok.inj checked
    split <;> omega

theorem exists_checkYear (inside : 1 ≤ yearOfDay (seconds / 86400 + epochDay) ∧
    yearOfDay (seconds / 86400 + epochDay) ≤ 9999) : ∃ year, checkYear seconds = .ok year := by
  unfold checkYear
  dsimp only
  rw [if_neg (by omega)]
  exact ⟨_, rfl⟩

theorem localSeconds_eq_ok_iff : localSeconds zone seconds = .ok shown ↔
    InYears (seconds + zone seconds) ∧ shown = seconds + zone seconds := by
  have years := yearOfDay_iff ((seconds + zone seconds) / 86400 + epochDay)
  have bounds : InYears (seconds + zone seconds) ↔
      1 ≤ yearOfDay ((seconds + zone seconds) / 86400 + epochDay) ∧
        yearOfDay ((seconds + zone seconds) / 86400 + epochDay) ≤ 9999 := by
    rw [years]
    simp only [InYears, firstSecond, endSecond, epochDay]
    omega
  rw [bounds, localSeconds]
  constructor
  · intro told
    obtain ⟨year, checked, told⟩ := bind_eq_ok.mp told
    have inside := checkYear_eq_ok checked
    split at told
    · cases told
    · exact ⟨by omega, (Except.ok.inj told).symm⟩
  · rintro ⟨inside, rfl⟩
    obtain ⟨year, checked⟩ := exists_checkYear inside
    have same := (checkYear_eq_ok checked).mpr inside
    rw [checked, ok_bind, if_neg (by omega)]
    rfl

theorem exists_momentOfSeconds_iff_shown (parts : splitSeconds x = .ok (seconds, micros)) :
    (∃ m, momentOfSeconds zone x = .ok m) ↔ Shown zone seconds := by
  rw [momentOfSeconds, parts, ok_bind]
  dsimp only
  constructor
  · rintro ⟨m, told⟩
    obtain ⟨_, now, told⟩ := bind_eq_ok.mp told
    obtain ⟨_, dayBefore, told⟩ := bind_eq_ok.mp told
    obtain ⟨shows, rfl⟩ := localSeconds_eq_ok_iff.mp now
    obtain ⟨showed, rfl⟩ := localSeconds_eq_ok_iff.mp dayBefore
    refine ⟨shows, showed, fun {back} setBack positive => ?_⟩
    have gained : seconds + zone seconds - (seconds - 86400 + zone (seconds - 86400)) - 86400 = -back := by
      omega
    rw [gained, if_pos (by omega)] at told
    obtain ⟨_, earlier, -⟩ := bind_eq_ok.mp told
    exact (localSeconds_eq_ok_iff.mp earlier).1
  · intro inside
    rw [localSeconds_eq_ok_iff.mpr ⟨inside.now, rfl⟩, ok_bind,
      localSeconds_eq_ok_iff.mpr ⟨inside.dayBefore, rfl⟩, ok_bind]
    split
    · next setBack =>
        have back : zone seconds = zone (seconds - 86400) - (zone (seconds - 86400) - zone seconds) := by omega
        have earlier := inside.earlier back (by omega)
        have gained : seconds +
            (seconds + zone seconds - (seconds - 86400 + zone (seconds - 86400)) - 86400) =
          seconds - (zone (seconds - 86400) - zone seconds) := by omega
        rw [gained, localSeconds_eq_ok_iff.mpr ⟨earlier, rfl⟩]
        exact ⟨_, rfl⟩
    · exact ⟨_, rfl⟩

/-- Seconds are a moment exactly if local clocks show one in the years of the calendar. -/
theorem exists_momentOfSeconds_iff : (∃ m, momentOfSeconds zone x = .ok m) ↔ Stamped zone x := by
  cases split : splitSeconds x with
  | error e =>
      rw [momentOfSeconds, Stamped, split]
      constructor
      · rintro ⟨m, told⟩
        cases told
      · rintro ⟨seconds, micros, same, -⟩
        cases same
  | ok parts =>
      obtain ⟨seconds, micros⟩ := parts
      rw [exists_momentOfSeconds_iff_shown split]
      constructor
      · intro inside
        exact ⟨seconds, micros, split, inside⟩
      · rintro ⟨_, _, same, inside⟩
        cases split.symm.trans same
        exact inside

/-- Where local time is universal time, the first day of the year 1 is no time that is shown. -/
theorem shown_universal_iff :
    Shown Host.universal.zone seconds ↔ firstSecond + 86400 ≤ seconds ∧ seconds < endSecond := by
  have zero (t : Int) : Host.universal.zone t = 0 := rfl
  constructor
  · rintro ⟨⟨-, last⟩, ⟨first, -⟩, -⟩
    simp only [zero] at first last
    omega
  · rintro ⟨first, last⟩
    refine ⟨⟨?_, ?_⟩, ⟨?_, ?_⟩, fun setBack positive => ?_⟩
    all_goals simp only [zero] at *
    all_goals omega

/-- A second of the year 2023. -/
theorem stamped_universal : Stamped Host.universal.zone (.ofInt 1700000000) := by
  have split : splitSeconds (.ofInt 1700000000) = .ok (1700000000, 0) :=
    toOption_eq_some_iff.mp (by decide +kernel)
  exact ⟨_, _, split, shown_universal_iff.mpr (by decide)⟩

end Clock

/-! ## Records that can be told -/

section Lines

variable {r : Record} {said : String} {d : Datum}

/-- A record whose message can be written, and whose data have a form in JSON. -/
structure Tellable (r : Record) (said : String) : Prop where
  message : r.message = .ok said
  extra : Native r.extra

/-- What is told of the fault of a record: nothing if the record has none, and neither kind nor message if a report
    was asked for and there was no fault. -/
inductive TellsFault : Option (Option Fault) → Datum → Prop where
  | none : TellsFault none .none
  | missing {info : Datum} (kind : info.at? "type" = some .none) (message : info.at? "message" = some .none) :
      TellsFault (some none) info
  | fault {f : Fault} {info : Datum} (kind : info.at? "type" = some (.text f.kind.label))
      (message : info.at? "message" = some (.text f.message)) : TellsFault (some (some f)) info

/-- A datum tells a record with its message. -/
structure Tells (zone : Zone) (r : Record) (said : String) (d : Datum) : Prop where
  time : ∃ m, momentOfSeconds zone r.created = .ok m ∧ d.at? "timestamp" = some (.text m.iso)
  level : d.at? "level" = some (.text (levelName r.level))
  logger : d.at? "logger_name" = some (.text r.logger)
  message : d.at? "message" = some (.text said)
  module : d.at? "module" = some (.text (Files.stem (Files.lastName r.path)))
  function : d.at? "function" = some (.ofText? r.function)
  line : d.at? "line_number" = some (.int r.line.val)
  thread : d.at? "thread_id" = some (.ofInt? (r.thread.map (·.val)))
  process : d.at? "process_id" = some (.ofInt? (r.process.map (·.val)))
  extra : d.at? "extra_data" = some r.extra
  fault : ∃ info, d.at? "exception_info" = some info ∧ TellsFault r.fault info

theorem native_texts (lines : List String) : Native (.list (lines.map .text)) :=
  .list (List.forall_mem_map.mpr fun line _ => .text line)

/-- The data of a fault have its kind, its message and its report. -/
theorem native_fault {kind message : Datum} (hasKind : Native kind) (hasMessage : Native message)
    (lines : List String) :
    Native (.named [("type", kind), ("message", message), ("traceback", .list (lines.map .text))]) := by
  have once : ["type", "message", "traceback"].Nodup := by decide
  refine .named (show (keys [("type", kind), _, _]).Nodup from once) ?_
  simp only [List.forall_mem_cons]
  exact ⟨hasKind, hasMessage, native_texts lines, fun _ member => by cases member⟩

theorem native_faultDatum (thrown : Bool) (fault : Option Fault) : Native (Record.faultDatum thrown fault) := by
  cases fault with
  | none => exact native_fault .none .none Record.noFault
  | some f => exact native_fault (.text f.kind.label) (.text f.message) (f.report thrown)

theorem tellsFault_faultDatum (thrown : Bool) (fault : Option Fault) :
    TellsFault (some fault) (Record.faultDatum thrown fault) := by
  cases fault with
  | none => constructor <;> rw [Record.faultDatum, Datum.at?_named] <;> rfl
  | some f => constructor <;> rw [Record.faultDatum, Datum.at?_named] <;> rfl

theorem native_short (i : Integer.Short) : Native (.int i.val) := by
  have same (digits : Nat) : i.val.natAbs < Nat.pow 10 digits → i.val.natAbs < 10 ^ digits := id
  exact .int (same _ i.property)

theorem native_ofShort? (i : Option Integer.Short) : Native (.ofInt? (i.map (·.val))) := by
  cases i with
  | none => exact .none
  | some i => exact native_short i

theorem native_ofText? (s : Option String) : Native (.ofText? s) := by
  cases s with
  | none => exact .none
  | some s => exact .text s

theorem nodup_keys_entries (r : Record) (m : Moment) (said : String) : (keys (r.entries m said)).Nodup := by
  have once : ["timestamp", "level", "logger_name", "message", "module", "function", "line_number", "thread_id",
      "process_id", "extra_data", "exception_info"].Nodup := by decide
  exact once

theorem native_entries (native : Native r.extra) (m : Moment) (said : String) :
    Native (.named (r.entries m said)) := by
  have fault : Native ((r.fault.map (Record.faultDatum r.thrown)).getD .none) := by
    cases r.fault with
    | none => exact .none
    | some fault => exact native_faultDatum r.thrown fault
  refine .named (nodup_keys_entries r m said) ?_
  simp only [Record.entries, List.forall_mem_cons]
  exact ⟨.text _, .text _, .text _, .text _, .text _, native_ofText? _, native_short _, native_ofShort? _,
    native_ofShort? _, native, fault, fun _ member => by cases member⟩

theorem tells_entries {zone : Zone} {m : Moment} (stamp : momentOfSeconds zone r.created = .ok m) :
    Tells zone r said (.named (r.entries m said)) := by
  constructor
  all_goals simp only [Datum.at?_named]
  case time => exact ⟨m, stamp, rfl⟩
  case fault =>
      refine ⟨_, rfl, ?_⟩
      cases r.fault with
      | none => exact .none
      | some fault => exact tellsFault_faultDatum r.thrown fault
  all_goals rfl

/-! ### Depth -/

/-- How deep the data of a record are nested, with what is told of its fault. -/
def Record.depth (r : Record) : Nat := max (r.extra.depth + 1) (if r.fault.isSome then 3 else 0)

theorem depthItems_texts {lines : List String} (some_ : lines ≠ []) :
    Datum.depthItems (lines.map .text) = 1 := by
  obtain ⟨line, rest, rfl⟩ := List.exists_cons_of_ne_nil some_
  have atMost (lines : List String) : Datum.depthItems (lines.map .text) ≤ 1 := by
    induction lines with
    | nil => exact Nat.zero_le 1
    | cons line rest ih => exact Nat.max_le.mpr ⟨Nat.le_refl 1, ih⟩
  exact Nat.max_eq_left (atMost rest)

theorem report_ne_nil (thrown : Bool) (f : Fault) : f.report thrown ≠ [] := by
  cases f <;> exact List.append_ne_nil_of_right_ne_nil _ (List.cons_ne_nil _ _)

theorem depth_faultDatum (thrown : Bool) (fault : Option Fault) :
    (Record.faultDatum thrown fault).depth = 2 := by
  have depth (kind message : Datum) (lines : List String) (kind_eq : kind.depth = 0)
      (message_eq : message.depth = 0) (some_ : lines ≠ []) : (Datum.named [("type", kind),
        ("message", message), ("traceback", .list (lines.map .text))]).depth = 2 := by
    simp [Datum.named, Datum.depth, Datum.depthEntries, kind_eq, message_eq, depthItems_texts some_]
  cases fault with
  | none => exact depth _ _ _ rfl rfl (List.cons_ne_nil _ _)
  | some f => exact depth _ _ _ rfl rfl (report_ne_nil thrown f)

theorem depth_entries (r : Record) (m : Moment) (said : String) :
    (Datum.named (r.entries m said)).depth = r.depth := by
  have function : (Datum.ofText? r.function).depth = 0 := by cases r.function <;> rfl
  have number (i : Option Int) : (Datum.ofInt? i).depth = 0 := by cases i <;> rfl
  have fault : ((r.fault.map (Record.faultDatum r.thrown)).getD .none).depth =
      if r.fault.isSome then 2 else 0 := by
    cases r.fault with
    | none => rfl
    | some fault => exact depth_faultDatum r.thrown fault
  simp only [Datum.named, Record.entries, List.map_cons, List.map_nil, Datum.depth, Datum.depthEntries, function,
    number, fault, Record.depth]
  split <;> omega

/-! ### Lines -/

theorem datum_of_stamp {host : Host} {m : Moment} (tellable : Tellable r said)
    (stamp : momentOfSeconds host.zone r.created = .ok m) : r.datum host =
      if host.room < r.depth then .error Record.tooDeep else .ok (.named (r.entries m said)) := by
  rw [Record.datum, stamp, ok_bind, tellable.message, ok_bind]
  dsimp only
  rw [depth_entries]
  split <;> rfl

theorem jsonLine_of_room_lt {host : Host} (tellable : Tellable r said) (stamped : Stamped host.zone r.created)
    (deep : host.room < r.depth) : r.jsonLine host = .error Record.tooDeep := by
  obtain ⟨m, stamp⟩ := exists_momentOfSeconds_iff.mpr stamped
  rw [Record.jsonLine, datum_of_stamp tellable stamp, if_pos deep]
  rfl

/-- A record that can be told has one line of printable characters, which denotes a datum that tells it and is read
    as that datum. It has none if it was made at no moment on local clocks, and none if its data are nested deeper
    than there is room for. -/
theorem jsonLine_of_tellable (host : Host) (tellable : Tellable r said) :
    (Stamped host.zone r.created → r.depth ≤ host.room →
      ∃ line d, r.jsonLine host = .ok line ∧ (∀ c ∈ line.toList, Printable c) ∧
        Denotes line.toList d ∧ read? line = some d ∧ Tells host.zone r said d) ∧
    (¬ Stamped host.zone r.created →
      ∃ f, momentOfSeconds host.zone r.created = .error f ∧ r.jsonLine host = .error f) ∧
    (Stamped host.zone r.created → host.room < r.depth → r.jsonLine host = .error Record.tooDeep) := by
  refine ⟨fun stamped fits => ?_, fun unstamped => ?_, jsonLine_of_room_lt tellable⟩
  · obtain ⟨m, stamp⟩ := exists_momentOfSeconds_iff.mpr stamped
    obtain ⟨cs, written⟩ := exists_writes (native_entries tellable.extra m said)
    have chars : (String.ofList cs).toList = cs := String.toList_ofList
    have denotes : Denotes (String.ofList cs).toList _ := chars.symm ▸ written.denotes
    refine ⟨String.ofList cs, _, ?_, chars.symm ▸ written.printable, denotes, read?_of_denotes denotes,
      tells_entries stamp⟩
    rw [Record.jsonLine, datum_of_stamp tellable stamp, if_neg (Nat.not_lt.mpr fits), ok_bind, Json.line,
      written.writes]
    rfl
  · cases stamp : momentOfSeconds host.zone r.created with
    | ok m => exact absurd (exists_momentOfSeconds_iff.mp ⟨m, stamp⟩) unstamped
    | error f =>
        refine ⟨f, rfl, ?_⟩
        rw [Record.jsonLine, Record.datum, stamp]
        rfl

end Lines

/-! ### A record of many signs -/

/-- A record whose texts have quotes, ends of lines and characters from all over Unicode. -/
def signsRecord : Record where
  logger := "certfixtures.\"main\""
  level := 40
  path := "/srv/certfixtures/main.py"
  line := .ofWord 42
  template := .text "first\nsecond\t\\ \x7f é 𝄞"
  arguments := []
  created := .ofInt 1700000000
  function := some "run"
  thread := some (.ofWord 7)
  process := some (.ofWord 11)
  extra := .named [("a\r\nb", .list [.none, .bool true, .int (-5)]), ("", .named [("𝄞", .text "\x00")])]
  fault := some (some (.of .value "line\nline"))
  thrown := false

theorem tellable_signsRecord : Tellable signsRecord "first\nsecond\t\\ \x7f é 𝄞" where
  message := rfl
  extra := by
    refine .named (by decide) ?_
    simp only [List.forall_mem_cons]
    refine ⟨.list ?_, .named (by decide) ?_, fun _ member => by cases member⟩
    · simp only [List.forall_mem_cons]
      exact ⟨.none, .bool true, .int (by decide +kernel), fun _ member => by cases member⟩
    · simp only [List.forall_mem_cons]
      exact ⟨.text _, fun _ member => by cases member⟩

theorem jsonLine_of_tellable_signsRecord :
    Stamped Host.universal.zone signsRecord.created ∧ signsRecord.depth ≤ Host.universal.room ∧
      ∃ line d, signsRecord.jsonLine .universal = .ok line ∧ (∀ c ∈ line.toList, Printable c) ∧
        Denotes line.toList d ∧ read? line = some d ∧
        Tells Host.universal.zone signsRecord "first\nsecond\t\\ \x7f é 𝄞" d := by
  have stamped : Stamped Host.universal.zone signsRecord.created := by
    rw [signsRecord]
    dsimp only
    exact stamped_universal
  have fits : signsRecord.depth ≤ Host.universal.room := by decide
  exact ⟨stamped, fits, (jsonLine_of_tellable .universal tellable_signsRecord).1 stamped fits⟩

/-! ### A record after the last year, and one that is nested too deep -/

/-- A record with these data. -/
def plainRecord (created : Int) (extra : Datum) : Record where
  logger := "test.module"
  level := 20
  path := "test_file.py"
  line := .ofWord 42
  template := .text "Test message"
  arguments := []
  created := .ofInt created
  function := none
  thread := some (.ofWord 7)
  process := some (.ofWord 11)
  extra := extra
  fault := none
  thrown := false

/-- Nothing, in so many lists. -/
def listed : Nat → Datum
  | 0 => .none
  | n + 1 => .list [listed n]

theorem native_listed (n : Nat) : Native (listed n) := by
  induction n with
  | zero => exact .none
  | succ n ih => exact .list fun d member => List.mem_singleton.mp member ▸ ih

theorem depth_listed (n : Nat) : (listed n).depth = n := by
  induction n with
  | zero => rfl
  | succ n ih => rw [listed, Datum.depth, Datum.depthItems, ih, Datum.depthItems, Nat.max_zero]

/-- A record that was made in the first second after the year 9999 of universal time can be told, and has no line.
    Nor has, whatever the room, one that was made in 2023 and whose data do not fit in. -/
theorem no_line_of_lateRecord :
    (Tellable (plainRecord endSecond .none) "Test message" ∧
      (plainRecord endSecond .none).jsonLine .universal = .error (.of .value "year 10000 is out of range")) ∧
    ∀ room, ∃ extra, Tellable (plainRecord 1700000000 extra) "Test message" ∧
      (plainRecord 1700000000 extra).jsonLine ⟨Host.universal.zone, room⟩ = .error Record.tooDeep := by
  refine ⟨⟨⟨rfl, .none⟩, ?_⟩, fun room => ⟨listed room, ⟨rfl, native_listed room⟩, ?_⟩⟩
  · have split : splitSeconds (.ofInt endSecond) = .ok (endSecond, 0) :=
      toOption_eq_some_iff.mp (by decide +kernel)
    have year : checkYear (endSecond + Host.universal.zone endSecond) = .ok 10000 :=
      toOption_eq_some_iff.mp (by decide +kernel)
    have stamp : momentOfSeconds Host.universal.zone (.ofInt endSecond) =
        .error (.of .value "year 10000 is out of range") := by
      rw [momentOfSeconds, split, ok_bind]
      dsimp only
      rw [localSeconds, year]
      rfl
    rw [Record.jsonLine, Record.datum, plainRecord, stamp]
    rfl
  · have tellable : Tellable (plainRecord 1700000000 (listed room)) "Test message" :=
      ⟨rfl, native_listed room⟩
    have stamped : Stamped Host.universal.zone (plainRecord 1700000000 (listed room)).created := by
      rw [plainRecord]
      dsimp only
      exact stamped_universal
    have deep : room < (plainRecord 1700000000 (listed room)).depth := by
      rw [Record.depth, plainRecord]
      dsimp only
      rw [depth_listed]
      exact Nat.lt_of_lt_of_le (Nat.lt_succ_self room) (Nat.le_max_left _ _)
    exact jsonLine_of_room_lt tellable stamped deep

end CertMint.Log
