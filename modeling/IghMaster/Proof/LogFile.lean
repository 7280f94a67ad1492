import IghMaster.LogFile
import IghMaster.Proof.EventRuns

/-!
# The file can be read

Every column of a line is read back as it was written, and no column has a comma or a line end in it. Of
the details, this is so for those that the servo writes.
-/

namespace IghMaster

open TextTable Transition

/-! ### The columns -/

theorem readHex_hexColumn (width : Nat) (word : UInt16) : readHex (hexColumn width word) = word := by
  have hdrop : (hexColumn width word).drop 2 = (Nat.toDigits 16 word.toNat).leftpad width '0' := rfl
  rw [readHex, hdrop, readNat_leftpad, readNat_toDigits (by decide) (by decide), UInt16.ofNat_toNat]

theorem readEventType_eventTypeName (type : RuntimeLogEventType) :
    readEventType (eventTypeName type) = some type := by
  cases type <;> decide +kernel

/-- The commas and the line ends of the file. -/
def IsFileSeparator (char : Char) : Prop := char = ',' ∨ char = '\n'

namespace IsFileSeparator

variable {separator : Char} (hseparator : IsFileSeparator separator)

include hseparator

theorem separates : Separates separator := by
  rcases hseparator with rfl | rfl
  · decide
  · decide

theorem not_mem_eventTypeName (type : RuntimeLogEventType) : separator ∉ eventTypeName type := by
  rcases hseparator with rfl | rfl
  · cases type <;> decide +kernel
  · cases type <;> decide +kernel

theorem not_mem_stateName (state : UInt16) : separator ∉ (cia402StateName state).toList := by
  unfold cia402StateName
  rcases hseparator with rfl | rfl
  · split_ifs <;> decide +kernel
  · split_ifs <;> decide +kernel

theorem not_mem_hexColumn (width : Nat) (word : UInt16) : separator ∉ hexColumn width word := by
  have hdigits := hseparator.separates.not_mem_leftpad
    (hseparator.separates.not_mem_toDigits (show 1 < 16 by decide) (Nat.le_refl 16) word.toNat) width
  rw [hexColumn, List.mem_cons, List.mem_cons, not_or, not_or]
  rcases hseparator with rfl | rfl
  · exact ⟨by decide, by decide, hdigits⟩
  · exact ⟨by decide, by decide, hdigits⟩

theorem not_mem_formatIsoTimestamp (monotonicNs : UInt64) (base : LogBase) :
    separator ∉ base.formatIsoTimestamp monotonicNs := by
  have hseparates := hseparator.separates
  have htwo : ∀ number, separator ∉ (Nat.toDigits 10 number).leftpad 2 '0' := fun number =>
    hseparates.not_mem_leftpad (hseparates.not_mem_toDigits (by decide) (by decide) number) 2
  have hthree : ∀ number, separator ∉ (signed number).leftpad 3 '0' := fun number =>
    hseparates.not_mem_leftpad (hseparates.not_mem_signed number) 3
  have hmarks : separator ≠ '-' ∧ separator ≠ ' ' ∧ separator ≠ ':' ∧ separator ≠ '.' := by
    rcases hseparator with rfl | rfl
    · decide
    · decide
  obtain ⟨hdash, hspace, hcolon, hdot⟩ := hmarks
  unfold LogBase.formatIsoTimestamp
  simp only [List.mem_append, List.mem_cons, not_or]
  simp only [hseparates.not_mem_signed, htwo, hthree, hdash, hspace, hcolon, hdot, not_false_eq_true,
    and_self]

/-- No column is taken apart, if the detail is not. -/
theorem not_mem_columns {event : RuntimeLogEvent} (hdetail : separator ∉ detailText event.detail)
    (base : LogBase) : ∀ column ∈ base.columns event, separator ∉ column := by
  have hseparates := hseparator.separates
  have hnumber : ∀ number, separator ∉ Nat.toDigits 10 number :=
    hseparates.not_mem_toDigits (by decide) (by decide)
  have hquoted : separator ∉ '"' :: detailText event.detail ++ ['"'] := by
    have hquote : separator ≠ '"' := by
      rcases hseparator with rfl | rfl
      · decide
      · decide
    simp [hquote, hdetail]
  rw [LogBase.columns]
  simp only [List.forall_mem_cons]
  exact ⟨hseparator.not_mem_formatIsoTimestamp _ base, hnumber _, hseparator.not_mem_eventTypeName _,
    hnumber _, hseparator.not_mem_hexColumn _ _, hseparator.not_mem_hexColumn _ _,
    hseparator.not_mem_stateName _, hseparator.not_mem_hexColumn _ _, hseparates.not_mem_signed _,
    hquoted, hseparates.not_mem_signed _, hseparates.not_mem_signed _, hseparates.not_mem_signed _,
    hseparator.not_mem_hexColumn _ _, fun _ hmem => absurd hmem List.not_mem_nil⟩

end IsFileSeparator

/-! ### Lines and files -/

/-- The detail can stand in a column of the file. -/
def IsPlainDetail (detail : Fin 256 → Int8) : Prop :=
  ',' ∉ detailText detail ∧ '\n' ∉ detailText detail

instance : DecidablePred IsPlainDetail := fun _ => inferInstanceAs (Decidable (_ ∧ _))

namespace LogBase

variable (base : LogBase) {event : RuntimeLogEvent}

theorem readRow_writeEvent (hplain : IsPlainDetail event.detail) :
    readRow (base.writeEvent event) = some (base.logLine event) := by
  have hsplit : (base.writeEvent event).splitOn ',' = base.columns event :=
    List.splitOn_intercalate ',' (IsFileSeparator.not_mem_columns (Or.inl rfl) hplain.1 base)
      (List.cons_ne_nil _ _)
  have hnumber : ∀ number, readNat 10 (Nat.toDigits 10 number) = number :=
    readNat_toDigits (by decide) (by decide)
  have hquoted : ('"' :: detailText event.detail ++ ['"']).tail.dropLast = detailText event.detail :=
    List.dropLast_concat
  rw [readRow, hsplit, columns]
  dsimp only
  rw [readEventType_eventTypeName, Option.map_some, hquoted]
  simp only [hnumber, readHex_hexColumn, readInt_signed, UInt64.ofNat_toNat, UInt8.ofNat_toNat,
    Int8.ofInt_toInt, Int16.ofInt_toInt, Int32.ofInt_toInt]
  rfl

theorem newline_not_mem_writeEvent (hplain : IsPlainDetail event.detail) :
    '\n' ∉ base.writeEvent event :=
  not_mem_intercalate (by decide) (IsFileSeparator.not_mem_columns (Or.inr rfl) hplain.2 base)

theorem readLog_fileText {events : List RuntimeLogEvent}
    (hplain : ∀ event ∈ events, IsPlainDetail event.detail) :
    readLog (base.fileText events) = some (events.map base.logLine) := by
  have hrows : ∀ row ∈ header :: events.map fun event => base.writeEvent event, '\n' ∉ row := by
    rw [List.forall_mem_cons, List.forall_mem_map]
    exact ⟨by decide +kernel, fun event hmem => base.newline_not_mem_writeEvent (hplain event hmem)⟩
  rw [readLog, fileText, readLines_lines hrows]
  dsimp only
  rw [if_pos rfl, List.mapM_map]
  clear hrows
  induction events with
  | nil => rfl
  | cons event rest ih =>
      rw [List.forall_mem_cons] at hplain
      rw [List.mapM_cons, Function.comp_apply, base.readRow_writeEvent hplain.1, ih hplain.2]
      rfl

end LogBase

/-! ### The details of a run -/

theorem isPlainDetail_runtime {detail : String}
    (hdetail : detail ∈ ["", "fault_detected", "control_word_write"]) : IsPlainDetail (detailOf detail) := by
  simp only [List.mem_cons, List.not_mem_nil, or_false] at hdetail
  rcases hdetail with rfl | rfl | rfl
  · decide +kernel
  · decide +kernel
  · decide +kernel

theorem isPlainDetail_setEnable (enable : Bool) :
    IsPlainDetail (detailOf (Servo.setEnableDetail enable)) := by
  cases enable <;> decide +kernel

theorem isPlainDetail_setOperationMode (mode : OperationMode) :
    IsPlainDetail (detailOf (Servo.setOperationModeDetail mode)) := by
  unfold Servo.setOperationModeDetail Servo.operationModeToString
  split_ifs <;> decide +kernel

namespace LoggedBackend

variable {state : LoggedBackend} {action : LoggedAction} {event : RuntimeLogEvent}

theorem isPlainDetail_of_mem_logCycle (hevent : event ∈ (state.logCycle action).2) :
    IsPlainDetail event.detail := by
  have hsent : ∀ {servo : Servo} {domain : DomainState},
      event ∈ (servo.logSendData domain action.clock state.axisLogs).2 → IsPlainDetail event.detail := by
    intro servo domain hmem
    unfold Servo.logSendData at hmem
    split_ifs at hmem
    · obtain ⟨index, -, hindex⟩ := List.mem_flatMap.mp hmem
      obtain ⟨axis, hlogged⟩ := Servo.exists_of_mem_logAxis hindex
      obtain ⟨merged, type, nowNs, controlWord, detail, hdetail, rfl⟩ :=
        AxisLog.exists_of_mem_sendData hlogged
      exact isPlainDetail_runtime hdetail
    · cases hmem
  unfold logCycle at hevent
  split at hevent
  · split_ifs at hevent
    · exact hsent hevent
    · cases hevent
  · cases hevent

/-- A queued event is a command, and its detail is one of `setEnable` or `setOperationMode`. -/
theorem command_of_logCommand (hevent : state.logCommand action = some event) :
    event.type = .servoCommand ∧ IsPlainDetail event.detail := by
  unfold logCommand at hevent
  split at hevent
  · rename_i call haction
    cases call with
    | setEnable motorId enable =>
        rw [Servo.loggedCommand, Option.ite_none_right_eq_some, Option.some.injEq] at hevent
        obtain ⟨-, rfl⟩ := hevent
        exact ⟨rfl, isPlainDetail_setEnable enable⟩
    | setOperationMode motorId mode =>
        rw [Servo.loggedCommand, Option.ite_none_right_eq_some, Option.some.injEq] at hevent
        obtain ⟨-, rfl⟩ := hevent
        exact ⟨rfl, isPlainDetail_setOperationMode mode⟩
    | _ => cases hevent
  · cases hevent

/-- The events of a run can be told from the file. -/
structure PlainDetails (config : LoggedConfig) : Prop where
  pushed : ∀ event ∈ config.state.pushed, IsPlainDetail event.detail
  queued : ∀ event ∈ config.state.queued, event.type = .servoCommand ∧ IsPlainDetail event.detail

theorem PlainDetails.advance {config : LoggedConfig} (hplain : PlainDetails config)
    (action : LoggedAction) : PlainDetails (machine.advance config action) := by
  constructor
  · intro event hevent
    rcases List.mem_append.mp hevent with hbefore | hlogged
    · exact hplain.pushed event hbefore
    · exact isPlainDetail_of_mem_logCycle hlogged
  · intro event hevent
    rcases List.mem_append.mp hevent with hbefore | hlogged
    · exact hplain.queued event hbefore
    · exact command_of_logCommand (Option.mem_toList.mp hlogged)

theorem plainDetails_exec (actions : List LoggedAction) :
    PlainDetails (machine.exec (.start {}) actions) :=
  machine.exec_invariant (fun _ action hplain => hplain.advance action) actions
    ⟨fun _ hevent => absurd hevent List.not_mem_nil, fun _ hevent => absurd hevent List.not_mem_nil⟩

/-- **The file tells the events**: whichever events of a run are written, in whatever order and with
whatever error codes, they are read back from the text. -/
theorem readLog_exec (actions : List LoggedAction) (base : LogBase) {written : List RuntimeLogEvent}
    (hwritten : ∀ event ∈ written, ∃ logged ∈ (machine.exec (.start {}) actions).state.pushed ++
        (machine.exec (.start {}) actions).state.queued,
      event = logged ∨ ∃ code, event = logged.withErrorCode code) :
    readLog (base.fileText written) = some (written.map base.logLine) := by
  have hplain := plainDetails_exec actions
  apply base.readLog_fileText
  intro event hevent
  obtain ⟨logged, hlogged, hcode⟩ := hwritten event hevent
  have hdetail : event.detail = logged.detail := by
    rcases hcode with rfl | ⟨code, rfl⟩
    · rfl
    · rfl
  rw [hdetail]
  rcases List.mem_append.mp hlogged with hpushed | hqueued
  · exact hplain.pushed logged hpushed
  · exact (hplain.queued logged hqueued).2

/-- The clocks of a logger that began at the epoch. -/
def epochBase : LogBase where
  monoBaseNs := 0
  wallBaseTime := 0
  localTime _ := ⟨1970, 1, 1, 0, 0, 0⟩

theorem readLog_loggedStart :
    let logged := (machine.exec (.start {}) loggedStart).state.pushed ++
      (machine.exec (.start {}) loggedStart).state.queued
    logged.length = 3 ∧ readLog (epochBase.fileText logged) = some (logged.map epochBase.logLine) := by
  intro logged
  exact ⟨by decide +kernel, readLog_exec loggedStart epochBase fun event hevent =>
    ⟨event, hevent, Or.inl rfl⟩⟩

end LoggedBackend

end IghMaster
