import IghMaster.PendingSteps

/-!
# Setpoints between the API and the Job

A merge loads the flag and then the value, stores the target and clears the flag. A write in between,
after the value was loaded, is lost with the flag. Where no flag is cleared over a newer value, the
pending value of a channel is what was written last, and it is flagged or it is the target.
-/

namespace IghMaster

open Transition

namespace PendingState

/-! ### Uninterrupted calls -/

theorem exec_setTargetPosition (setpoints : Setpoints) (position : Int32) (overrideFilter : Bool) :
    (machine.exec (.start (ofSetpoints setpoints)) [.call .position position, .writer, .writer]).state =
      ofSetpoints (setpoints.setTargetPosition position overrideFilter) := by
  have hcells : (machine.exec (.start (ofSetpoints setpoints))
      [.call .position position, .writer, .writer]).state.cells =
        (ofSetpoints (setpoints.setTargetPosition position overrideFilter)).cells := by
    funext channel
    cases channel <;> rfl
  exact congrArg (fun cells => ({ cells := cells } : PendingState)) hcells

theorem exec_setTargetVelocity (setpoints : Setpoints) (velocity : Int32) (overrideIdle : Bool) :
    (machine.exec (.start (ofSetpoints setpoints)) [.call .velocity velocity, .writer, .writer]).state =
      ofSetpoints (setpoints.setTargetVelocity velocity overrideIdle) := by
  have hcells : (machine.exec (.start (ofSetpoints setpoints))
      [.call .velocity velocity, .writer, .writer]).state.cells =
        (ofSetpoints (setpoints.setTargetVelocity velocity overrideIdle)).cells := by
    funext channel
    cases channel <;> rfl
  exact congrArg (fun cells => ({ cells := cells } : PendingState)) hcells

theorem exec_setTargetTorque (setpoints : Setpoints) (torque : Int16) :
    (machine.exec (.start (ofSetpoints setpoints)) [.call .torque torque, .writer, .writer]).state =
      ofSetpoints (setpoints.setTargetTorque torque) := by
  have hcells : (machine.exec (.start (ofSetpoints setpoints))
      [.call .torque torque, .writer, .writer]).state.cells =
        (ofSetpoints (setpoints.setTargetTorque torque)).cells := by
    funext channel
    cases channel <;> rfl
  exact congrArg (fun cells => ({ cells := cells } : PendingState)) hcells

/-- The accesses of a merge on one channel. -/
def channelSteps (valid : Bool) : List PendingAction :=
  if valid then [.job, .job, .job, .job] else [.job]

def mergeSteps (pending : PendingCommand) : List PendingAction :=
  .beginMerge :: (channelSteps pending.positionValid ++ channelSteps pending.velocityValid ++
    channelSteps pending.torqueValid)

theorem exec_mergePending (setpoints : Setpoints) :
    (machine.exec (.start (ofSetpoints setpoints)) (mergeSteps setpoints.pending)).state =
      ofSetpoints setpoints.mergePending := by
  obtain ⟨⟨position, positionValid, velocity, velocityValid, torque, torqueValid⟩⟩ := setpoints
  cases positionValid <;> cases velocityValid <;> cases torqueValid
  all_goals
    refine congrArg (fun cells => ({ cells := cells } : PendingState)) ?_
    funext channel
    cases channel <;> rfl

/-! ### Cells -/

theorem cells_setCell (channel : PendingChannel) (cell : PendingCell channel.Value)
    (state : PendingState) : (state.setCell channel cell).cells channel = cell := by
  rw [setCell]
  exact Function.update_self _ _ _

theorem cells_setCell_of_ne {channel other : PendingChannel} (hother : channel ≠ other)
    (cell : PendingCell other.Value) (state : PendingState) :
    (state.setCell other cell).cells channel = state.cells channel := by
  rw [setCell]
  exact Function.update_of_ne hother _ _

/-! ### What is held on a channel -/

def past (channel : PendingChannel) (state : PendingState) : Bool :=
  match state.job with
  | .idle => true
  | .loadValid merged => channel.rank < merged.rank
  | .loadValue merged => channel.rank < merged.rank
  | .storeTarget merged _ => channel.rank < merged.rank
  | .clearValid merged => channel.rank < merged.rank

/-- The merge has found the flag of the channel set, and is yet to clear it. -/
def taking (channel : PendingChannel) (state : PendingState) : Bool :=
  match state.job with
  | .loadValue merged => merged = channel
  | .storeTarget merged _ => merged = channel
  | .clearValid merged => merged = channel
  | _ => false

/-- The target is what was written last, and no flag is set. -/
def Settled {channel : PendingChannel} (values : List channel.Value)
    (cell : PendingCell channel.Value) : Prop :=
  values.head? = some cell.target ∧ cell.valid = false

/-- A merge that began after the latest call takes the value of that call. -/
structure Taking (channel : PendingChannel) (values : List channel.Value) (state : PendingState) :
    Prop where
  loaded : ∀ value, state.job = .storeTarget channel value → values.head? = some value
  stored : state.job = .clearValid channel → values.head? = some (state.cells channel).target
  past : state.past channel = true → Settled values (state.cells channel)

structure ChannelTracks (channel : PendingChannel) (config : PendingConfig) : Prop where
  value : ∀ value, (written channel config.history).head? = some value →
    (config.state.cells channel).value = value
  flagged : (config.state.cells channel).valid = true → written channel config.history ≠ []
  called : config.state.writer = .storeValid channel → written channel config.history ≠ []
  /-- Only the Job clears the flag that it found. -/
  taken : config.state.taking channel = true → (config.state.cells channel).valid = true
  /-- Outside a call, a value that is not flagged has arrived. -/
  arrived : config.state.calling channel = false → (config.state.cells channel).valid = false →
    ∀ value, (written channel config.history).head? = some value →
      (config.state.cells channel).target = value
  loaded : ∀ value, config.state.job = .storeTarget channel value →
    value ∈ written channel config.history
  returned : callPhase channel config.history ≠ .pending →
    config.state.calling channel = false ∧ written channel config.history ≠ []
  merging : callPhase channel config.history = .merging →
    Taking channel (written channel config.history) config.state
  merged : callPhase channel config.history = .merged →
    Settled (written channel config.history) (config.state.cells channel)

variable {channel : PendingChannel} {config : PendingConfig} {action : PendingAction}

theorem written_of_unwritten {visit : PendingVisit} (hunwritten : written? channel visit = none)
    (earlier : List PendingVisit) : written channel (visit :: earlier) = written channel earlier :=
  List.filterMap_cons_none hunwritten

/-- A visit that neither begins a call nor returns from one may begin or end a merge. -/
theorem callPhase_of_calling_eq {visit : PendingVisit} (earlier : List PendingVisit)
    (hcalling : visit.after.calling channel = visit.before.calling channel) :
    callPhase channel (visit :: earlier) = (callPhase channel earlier).merge visit := by
  have hbegins : beginsCall channel visit = false := by
    rw [beginsCall, hcalling, Bool.not_and_self]
  have hreturns : returns channel visit = false := by
    rw [returns, hcalling, Bool.and_not_self]
  rw [callPhase, hbegins, hreturns, if_neg Bool.false_ne_true, if_neg Bool.false_ne_true]

theorem CallPhase.of_merge_merging {visit : PendingVisit} {phase : CallPhase}
    (hmerge : phase.merge visit = .merging) :
    phase = .merging ∨ phase = .returned ∧ beginsMerge visit = true := by
  cases phase with
  | pending => exact CallPhase.noConfusion hmerge
  | returned =>
      refine Or.inr ⟨rfl, ?_⟩
      rw [← Bool.not_eq_false]
      intro hbegins
      rw [CallPhase.merge, hbegins] at hmerge
      exact CallPhase.noConfusion hmerge
  | merging => exact Or.inl rfl
  | merged => exact CallPhase.noConfusion hmerge

theorem CallPhase.of_merge_merged {visit : PendingVisit} {phase : CallPhase}
    (hmerge : phase.merge visit = .merged) :
    phase = .merged ∨ phase = .merging ∧ endsMerge visit = true := by
  cases phase with
  | pending => exact CallPhase.noConfusion hmerge
  | returned =>
      rw [CallPhase.merge] at hmerge
      split at hmerge
      · exact CallPhase.noConfusion hmerge
      · exact CallPhase.noConfusion hmerge
  | merging =>
      refine Or.inr ⟨rfl, ?_⟩
      rw [← Bool.not_eq_false]
      intro hends
      rw [CallPhase.merge, hends] at hmerge
      exact CallPhase.noConfusion hmerge
  | merged => exact Or.inl rfl

theorem past_of_jobIdle {state : PendingState} (hidle : state.jobIdle = true) :
    state.past channel = true := by
  unfold jobIdle at hidle
  unfold past
  cases hjob : state.job with
  | idle => rfl
  | _ => simp [hjob] at hidle

/-- A step that writes nothing on the channel and is no step of a call on it. -/
theorem ChannelTracks.of_unwritten (htracks : ChannelTracks channel config)
    (hunwritten : written? channel (machine.visit config.state action) = none)
    (hcalling : (machine.next config.state action).calling channel = config.state.calling channel)
    (hcalled : (machine.next config.state action).writer = .storeValid channel →
      config.state.writer = .storeValid channel)
    (hvalue : ((machine.next config.state action).cells channel).value =
      (config.state.cells channel).value)
    (hflagged : ((machine.next config.state action).cells channel).valid = true →
      (config.state.cells channel).valid = true)
    (htaken : (machine.next config.state action).taking channel = true →
      ((machine.next config.state action).cells channel).valid = true)
    (harrived : config.state.calling channel = false →
      ((machine.next config.state action).cells channel).valid = false →
        ∀ value, (written channel config.history).head? = some value →
          ((machine.next config.state action).cells channel).target = value)
    (hloaded : ∀ value, (machine.next config.state action).job = .storeTarget channel value →
      value ∈ written channel config.history)
    (hmerging : callPhase channel config.history = .merging ∨
        callPhase channel config.history = .returned ∧
          beginsMerge (machine.visit config.state action) = true →
      Taking channel (written channel config.history) (machine.next config.state action))
    (hmerged : callPhase channel config.history = .merged →
      Settled (written channel config.history) ((machine.next config.state action).cells channel)) :
    ChannelTracks channel (machine.advance config action) := by
  have hwritten := written_of_unwritten hunwritten config.history
  have hphase : callPhase channel (machine.visit config.state action :: config.history) =
      (callPhase channel config.history).merge (machine.visit config.state action) :=
    callPhase_of_calling_eq config.history hcalling
  refine ⟨?_, ?_, ?_, htaken, ?_, ?_, ?_, ?_, ?_⟩
  all_goals rw [Machine.advance_history]
  · rw [hwritten]
    exact fun value hhead => hvalue.trans (htracks.value value hhead)
  · rw [hwritten]
    exact fun hvalid => htracks.flagged (hflagged hvalid)
  · rw [hwritten]
    exact fun hwriter => htracks.called (hcalled hwriter)
  · rw [hwritten]
    exact fun hidle => harrived (hcalling.symm.trans hidle)
  · rw [hwritten]
    exact hloaded
  · rw [hwritten, hphase]
    intro hphased
    have hbefore : callPhase channel config.history ≠ .pending := by
      intro hpending
      rw [hpending] at hphased
      exact hphased rfl
    exact ⟨hcalling.trans (htracks.returned hbefore).1, (htracks.returned hbefore).2⟩
  · rw [hwritten]
    exact fun hmergingNow => hmerging (CallPhase.of_merge_merging (hphase.symm.trans hmergingNow))
  · rw [hwritten, hphase]
    intro hmergedNow
    rcases CallPhase.of_merge_merged hmergedNow with hbefore | ⟨hbefore, hends⟩
    · exact hmerged hbefore
    · have hidle : (machine.next config.state action).jobIdle = true :=
        (Bool.and_eq_true_iff.mp hends).2
      exact (hmerging (Or.inl hbefore)).past (past_of_jobIdle hidle)

/-! ### Steps elsewhere -/

theorem past_congr {state after : PendingState} (hjob : after.job = state.job) :
    after.past channel = state.past channel := by
  rw [past, past, hjob]

theorem taking_congr {state after : PendingState} (hjob : after.job = state.job) :
    after.taking channel = state.taking channel := by
  rw [taking, taking, hjob]

theorem jobIdle_congr {state after : PendingState} (hjob : after.job = state.job) :
    after.jobIdle = state.jobIdle := by
  rw [jobIdle, jobIdle, hjob]

theorem calling_congr {state after : PendingState} (hwriter : after.writer = state.writer) :
    after.calling channel = state.calling channel := by
  rw [calling, calling, hwriter]

/-- A step of the writer that does not concern the channel, or a step that does nothing. -/
theorem ChannelTracks.of_writer_elsewhere (htracks : ChannelTracks channel config)
    (hunwritten : written? channel (machine.visit config.state action) = none)
    (hcalling : (machine.next config.state action).calling channel = config.state.calling channel)
    (hcalled : (machine.next config.state action).writer = .storeValid channel →
      config.state.writer = .storeValid channel)
    (hcell : (machine.next config.state action).cells channel = config.state.cells channel)
    (hjob : (machine.next config.state action).job = config.state.job) :
    ChannelTracks channel (machine.advance config action) := by
  have hstill : beginsMerge (machine.visit config.state action) = false := by
    rw [beginsMerge, Machine.visit_after, Machine.visit_before, jobIdle_congr hjob,
      Bool.and_not_self]
  refine htracks.of_unwritten hunwritten hcalling hcalled ?_ ?_ ?_ ?_ ?_ ?_ ?_
  · rw [hcell]
  · rw [hcell]
    exact id
  · rw [hcell, taking_congr hjob]
    exact htracks.taken
  · rw [hcell]
    exact htracks.arrived
  · rw [hjob]
    exact htracks.loaded
  · rintro (hmerging | ⟨-, hbegins⟩)
    · have htaking := htracks.merging hmerging
      constructor
      · rw [hjob]
        exact htaking.loaded
      · rw [hjob, hcell]
        exact htaking.stored
      · rw [past_congr hjob, hcell]
        exact htaking.past
    · exact absurd (hstill.symm.trans hbegins) Bool.false_ne_true
  · rw [hcell]
    exact htracks.merged

/-- A step of the Job on another channel, or one that begins a merge. -/
theorem ChannelTracks.of_job_elsewhere (htracks : ChannelTracks channel config)
    (hunwritten : written? channel (machine.visit config.state action) = none)
    (hwriter : (machine.next config.state action).writer = config.state.writer)
    (hcell : (machine.next config.state action).cells channel = config.state.cells channel)
    (htaking : (machine.next config.state action).taking channel = false)
    (hpast : (machine.next config.state action).past channel = true →
      config.state.past channel = true ∧ config.state.jobIdle = false) :
    ChannelTracks channel (machine.advance config action) := by
  have hstore : ∀ value, (machine.next config.state action).job ≠ .storeTarget channel value := by
    intro value hjob
    rw [taking, hjob] at htaking
    simp at htaking
  have hclear : (machine.next config.state action).job ≠ .clearValid channel := by
    intro hjob
    rw [taking, hjob] at htaking
    simp at htaking
  refine htracks.of_unwritten hunwritten (calling_congr hwriter) ?_ ?_ ?_ ?_ ?_ ?_ ?_ ?_
  · rw [hwriter]
    exact id
  · rw [hcell]
  · rw [hcell]
    exact id
  · exact fun htakes => absurd (htaking.symm.trans htakes) Bool.false_ne_true
  · rw [hcell]
    exact htracks.arrived
  · exact fun value hjob => absurd hjob (hstore value)
  · intro hphase
    refine ⟨fun value hjob => absurd hjob (hstore value), fun hjob => absurd hjob hclear, ?_⟩
    intro hpassed
    obtain ⟨hbefore, hbusy⟩ := hpast hpassed
    rcases hphase with hmerging | ⟨-, hbegins⟩
    · rw [hcell]
      exact (htracks.merging hmerging).past hbefore
    · have hidle : config.state.jobIdle = true := (Bool.and_eq_true_iff.mp hbegins).1
      exact absurd (hbusy.symm.trans hidle) Bool.false_ne_true
  · rw [hcell]
    exact htracks.merged

/-! ### Steps of the Job on the channel -/

theorem rank_lt_afterChannel (channel merged : PendingChannel) (state : PendingState)
    (hjob : state.job = afterChannel merged) :
    state.past channel = decide (channel.rank ≤ merged.rank) := by
  rw [past, hjob]
  cases channel <;> cases merged <;> rfl

/-- After a channel the merge goes on to the next one, or is over. -/
theorem afterChannel_ne_storeTarget (channel : PendingChannel) (value : channel.Value) :
    afterChannel channel ≠ .storeTarget channel value := by
  cases channel <;> exact PendingJob.noConfusion

theorem afterChannel_ne_clearValid (channel : PendingChannel) :
    afterChannel channel ≠ .clearValid channel := by
  cases channel <;> exact PendingJob.noConfusion

theorem taking_of_afterChannel {merged : PendingChannel} {state : PendingState}
    (hjob : state.job = afterChannel merged) : state.taking channel = false := by
  rw [taking, hjob]
  cases merged <;> rfl

theorem writing_of_job {visit : PendingVisit} (haction : visit.action = .job) :
    written? channel visit = none := by
  unfold written?
  rw [haction]

/-- A step of a merge that has begun. -/
theorem ChannelTracks.of_merge (htracks : ChannelTracks channel config)
    (hbusy : config.state.jobIdle = false) {after : PendingState}
    (hnext : machine.next config.state .job = after)
    (hwriter : after.writer = config.state.writer)
    (hvalue : (after.cells channel).value = (config.state.cells channel).value)
    (hflagged : (after.cells channel).valid = true → (config.state.cells channel).valid = true)
    (htaken : after.taking channel = true → (after.cells channel).valid = true)
    (harrived : config.state.calling channel = false → (after.cells channel).valid = false →
      ∀ value, (written channel config.history).head? = some value →
        (after.cells channel).target = value)
    (hloaded : ∀ value, after.job = .storeTarget channel value →
      value ∈ written channel config.history)
    (hmerging : callPhase channel config.history = .merging →
      Taking channel (written channel config.history) after)
    (hmerged : callPhase channel config.history = .merged →
      Settled (written channel config.history) (after.cells channel)) :
    ChannelTracks channel (machine.advance config .job) := by
  subst hnext
  refine htracks.of_unwritten (writing_of_job rfl) (calling_congr hwriter) ?_ hvalue hflagged htaken
    harrived hloaded ?_ hmerged
  · rw [hwriter]
    exact id
  · rintro (hphase | ⟨-, hbegins⟩)
    · exact hmerging hphase
    · have hidle : config.state.jobIdle = true := (Bool.and_eq_true_iff.mp hbegins).1
      exact absurd (hbusy.symm.trans hidle) Bool.false_ne_true

theorem not_past_of_job {state : PendingState} (hjob : state.job = .loadValue channel ∨
    (∃ value, state.job = .storeTarget channel value) ∨ state.job = .clearValid channel) :
    state.past channel = false := by
  rcases hjob with hjob | ⟨value, hjob⟩ | hjob
  · rw [past, hjob]
    exact decide_eq_false (Nat.lt_irrefl _)
  · rw [past, hjob]
    exact decide_eq_false (Nat.lt_irrefl _)
  · rw [past, hjob]
    exact decide_eq_false (Nat.lt_irrefl _)

theorem taking_of_job {state : PendingState} (hjob : state.job = .loadValue channel ∨
    (∃ value, state.job = .storeTarget channel value) ∨ state.job = .clearValid channel) :
    state.taking channel = true := by
  rcases hjob with hjob | ⟨value, hjob⟩ | hjob
  · rw [taking, hjob]
    exact decide_eq_true rfl
  · rw [taking, hjob]
    exact decide_eq_true rfl
  · rw [taking, hjob]
    exact decide_eq_true rfl

/-- While the merge takes the value of a channel its flag is set, so that nothing is settled. -/
theorem ChannelTracks.not_merged (htracks : ChannelTracks channel config)
    (htaking : config.state.taking channel = true) :
    callPhase channel config.history ≠ .merged := by
  intro hphase
  have hvalid := htracks.taken htaking
  exact absurd ((htracks.merged hphase).2.symm.trans hvalid) Bool.false_ne_true

theorem ChannelTracks.loadValid (htracks : ChannelTracks channel config)
    (hjob : config.state.job = .loadValid channel) :
    ChannelTracks channel (machine.advance config .job) := by
  have hbusy : config.state.jobIdle = false := by
    rw [jobIdle, hjob]
  cases hvalid : (config.state.cells channel).valid with
  | true =>
      have hnext : machine.next config.state .job =
          { config.state with job := .loadValue channel } := by
        change config.state.jobStep = _
        rw [jobStep, hjob]
        exact if_pos hvalid
      refine htracks.of_merge hbusy hnext rfl rfl id (fun _ => hvalid) htracks.arrived ?_ ?_
        htracks.merged
      · exact fun value hstore => PendingJob.noConfusion hstore
      · intro _
        refine ⟨fun value hstore => PendingJob.noConfusion hstore,
          fun hclear => PendingJob.noConfusion hclear, fun hpast => ?_⟩
        exact absurd ((not_past_of_job (Or.inl rfl)).symm.trans hpast) Bool.false_ne_true
  | false =>
      have hnext : machine.next config.state .job =
          { config.state with job := afterChannel channel } := by
        change config.state.jobStep = _
        rw [jobStep, hjob]
        exact if_neg (by simp [hvalid])
      refine htracks.of_merge hbusy hnext rfl rfl id ?_ htracks.arrived ?_ ?_ htracks.merged
      · intro htaking
        exact absurd ((taking_of_afterChannel rfl).symm.trans htaking) Bool.false_ne_true
      · exact fun value hjob => absurd hjob (afterChannel_ne_storeTarget channel value)
      · intro hphase
        refine ⟨fun value hjob => absurd hjob (afterChannel_ne_storeTarget channel value),
          fun hjob => absurd hjob (afterChannel_ne_clearValid channel), ?_⟩
        intro _
        have hreturned := htracks.returned (by rw [hphase]; exact CallPhase.noConfusion)
        obtain ⟨value, hhead⟩ := Option.isSome_iff_exists.mp
          (List.isSome_head?.mpr hreturned.2)
        exact ⟨hhead.trans (congrArg some (htracks.arrived hreturned.1 hvalid value hhead).symm),
          hvalid⟩

theorem ChannelTracks.loadValue (htracks : ChannelTracks channel config)
    (hjob : config.state.job = .loadValue channel) :
    ChannelTracks channel (machine.advance config .job) := by
  have hbusy : config.state.jobIdle = false := by
    rw [jobIdle, hjob]
  have hvalid := htracks.taken (taking_of_job (Or.inl hjob))
  have hnext : machine.next config.state .job =
      { config.state with job := .storeTarget channel (config.state.cells channel).value } := by
    change config.state.jobStep = _
    rw [jobStep, hjob]
  obtain ⟨value, hhead⟩ := Option.isSome_iff_exists.mp
    (List.isSome_head?.mpr (htracks.flagged hvalid))
  have hlast : (written channel config.history).head? =
      some (config.state.cells channel).value := by
    rw [htracks.value value hhead, hhead]
  refine htracks.of_merge hbusy hnext rfl rfl id (fun _ => hvalid) htracks.arrived ?_ ?_
    htracks.merged
  · intro loaded hstore
    injection hstore with _ hloaded
    rw [← hloaded]
    exact List.mem_of_head? hlast
  · intro _
    refine ⟨fun loaded hstore => ?_, fun hclear => PendingJob.noConfusion hclear, fun hpast => ?_⟩
    · injection hstore with _ hloaded
      rw [← hloaded]
      exact hlast
    · exact absurd ((not_past_of_job (Or.inr (Or.inl ⟨_, rfl⟩))).symm.trans hpast)
        Bool.false_ne_true

theorem ChannelTracks.storeTarget (htracks : ChannelTracks channel config) {loaded : channel.Value}
    (hjob : config.state.job = .storeTarget channel loaded) :
    ChannelTracks channel (machine.advance config .job) := by
  have hbusy : config.state.jobIdle = false := by
    rw [jobIdle, hjob]
  have htaking := taking_of_job (Or.inr (Or.inl ⟨loaded, hjob⟩))
  have hvalid := htracks.taken htaking
  have hnext : machine.next config.state .job =
      { config.state.setCell channel { config.state.cells channel with target := loaded } with
        job := .clearValid channel } := by
    change config.state.jobStep = _
    rw [jobStep, hjob]
  have hcell := cells_setCell channel { config.state.cells channel with target := loaded }
    config.state
  have hstillValid : ((config.state.setCell channel
      { config.state.cells channel with target := loaded }).cells channel).valid = true := by
    rw [hcell]
    exact hvalid
  refine htracks.of_merge hbusy hnext rfl ?_ (fun _ => hvalid) (fun _ => hstillValid) ?_ ?_ ?_ ?_
  · exact (congrArg PendingCell.value hcell).trans rfl
  · exact fun _ hcleared => absurd (hcleared.symm.trans hstillValid) Bool.false_ne_true
  · exact fun value hstore => PendingJob.noConfusion hstore
  · intro hphase
    refine ⟨fun value hstore => PendingJob.noConfusion hstore, fun _ => ?_, fun hpast => ?_⟩
    · rw [show ((config.state.setCell channel { config.state.cells channel with target := loaded }
        ).cells channel).target = loaded from congrArg PendingCell.target hcell]
      exact (htracks.merging hphase).loaded loaded hjob
    · exact absurd ((not_past_of_job (Or.inr (Or.inr rfl))).symm.trans hpast) Bool.false_ne_true
  · exact fun hphase => absurd hphase (htracks.not_merged htaking)

/-- The merge clears the flag of the channel, over the value it applied or in the middle of a call. -/
theorem ChannelTracks.clearValid (htracks : ChannelTracks channel config)
    (hjob : config.state.job = .clearValid channel)
    (happlied : config.state.calling channel = false →
      (config.state.cells channel).value = (config.state.cells channel).target) :
    ChannelTracks channel (machine.advance config .job) := by
  have hbusy : config.state.jobIdle = false := by
    rw [jobIdle, hjob]
  have htaking := taking_of_job (Or.inr (Or.inr hjob))
  have hvalid := htracks.taken htaking
  have hnext : machine.next config.state .job =
      { config.state.setCell channel { config.state.cells channel with valid := false } with
        job := afterChannel channel } := by
    change config.state.jobStep = _
    rw [jobStep, hjob]
  have hcell := cells_setCell channel { config.state.cells channel with valid := false }
    config.state
  refine htracks.of_merge hbusy hnext rfl ?_ (fun _ => hvalid) ?_ ?_ ?_ ?_ ?_
  · exact (congrArg PendingCell.value hcell).trans rfl
  · intro htakes
    exact absurd ((taking_of_afterChannel rfl).symm.trans htakes) Bool.false_ne_true
  · intro hidle _ value hhead
    exact (congrArg PendingCell.target hcell).trans
      ((happlied hidle).symm.trans (htracks.value value hhead))
  · exact fun value hjob => absurd hjob (afterChannel_ne_storeTarget channel value)
  · intro hphase
    refine ⟨fun value hjob => absurd hjob (afterChannel_ne_storeTarget channel value),
      fun hjob => absurd hjob (afterChannel_ne_clearValid channel), fun _ => ?_⟩
    exact ⟨((htracks.merging hphase).stored hjob).trans
      (congrArg (fun cell => some (PendingCell.target cell)) hcell).symm,
        congrArg PendingCell.valid hcell⟩
  · exact fun hphase => absurd hphase (htracks.not_merged htaking)

/-! ### Steps of the writer on the channel -/

theorem ChannelTracks.call (htracks : ChannelTracks channel config) (value : channel.Value)
    (hwriter : config.state.writer = .idle) :
    ChannelTracks channel (machine.advance config (.call channel value)) := by
  have hnext : machine.next config.state (.call channel value) =
      { config.state with writer := .storeValue channel value } := by
    change config.state.call channel value = _
    rw [PendingState.call, hwriter]
  have hcalling : (machine.next config.state (.call channel value)).calling channel = true := by
    rw [hnext, calling]
    exact decide_eq_true rfl
  have hphase : callPhase channel (machine.advance config (.call channel value)).history =
      .pending := by
    refine if_pos ?_
    rw [beginsCall, Machine.visit_after, hcalling, Machine.visit_before, calling, hwriter]
    rfl
  have hwritten : written channel (machine.advance config (.call channel value)).history =
      written channel config.history := written_of_unwritten rfl config.history
  refine ⟨?_, ?_, ?_, ?_, ?_, ?_, ?_, ?_, ?_⟩
  · rw [hwritten, Machine.advance_state, hnext]
    exact htracks.value
  · rw [hwritten, Machine.advance_state, hnext]
    exact htracks.flagged
  · rw [Machine.advance_state, hnext]
    exact fun hstore => PendingWriter.noConfusion hstore
  · rw [Machine.advance_state, hnext]
    exact htracks.taken
  · exact fun hidle => absurd (hidle.symm.trans hcalling) Bool.false_ne_true
  · rw [hwritten, Machine.advance_state, hnext]
    exact htracks.loaded
  · exact fun hreturned => absurd hphase hreturned
  · exact fun hmerging => CallPhase.noConfusion (hphase.symm.trans hmerging)
  · exact fun hmerged => CallPhase.noConfusion (hphase.symm.trans hmerged)

theorem ChannelTracks.storeValue (htracks : ChannelTracks channel config) {value : channel.Value}
    (hwriter : config.state.writer = .storeValue channel value) :
    ChannelTracks channel (machine.advance config .writer) := by
  have hnext : machine.next config.state .writer =
      { config.state.setCell channel { config.state.cells channel with value := value } with
        writer := .storeValid channel } := by
    change config.state.writerStep = _
    rw [writerStep, hwriter]
  have hcell := cells_setCell channel { config.state.cells channel with value := value }
    config.state
  have hcalling : config.state.calling channel = true := by
    rw [calling, hwriter]
    exact decide_eq_true rfl
  have hstillCalling : (machine.next config.state .writer).calling channel = true := by
    rw [hnext, calling]
    exact decide_eq_true rfl
  have hpending : callPhase channel config.history = .pending := by
    by_contra hphase
    exact absurd ((htracks.returned hphase).1.symm.trans hcalling) Bool.false_ne_true
  have hphase : callPhase channel (machine.advance config .writer).history = .pending := by
    rw [Machine.advance_history, callPhase_of_calling_eq config.history
      (hstillCalling.trans hcalling.symm), hpending]
    rfl
  have hwritten : written channel (machine.advance config .writer).history =
      value :: written channel config.history := by
    refine List.filterMap_cons_some ?_
    rw [written?, Machine.visit_action, Machine.visit_before, hwriter]
    exact dif_pos rfl
  refine ⟨?_, ?_, ?_, ?_, ?_, ?_, ?_, ?_, ?_⟩
  · rw [hwritten, Machine.advance_state, hnext]
    intro last hlast
    exact (congrArg PendingCell.value hcell).trans (Option.some.inj hlast)
  · rw [hwritten]
    exact fun _ => List.cons_ne_nil _ _
  · rw [hwritten]
    exact fun _ => List.cons_ne_nil _ _
  · rw [Machine.advance_state, hnext]
    exact fun htaking => (congrArg PendingCell.valid hcell).trans (htracks.taken htaking)
  · exact fun hidle => absurd (hidle.symm.trans hstillCalling) Bool.false_ne_true
  · rw [hwritten, Machine.advance_state, hnext]
    exact fun loaded hjob => List.mem_cons_of_mem _ (htracks.loaded loaded hjob)
  · exact fun hreturned => absurd hphase hreturned
  · exact fun hmerging => CallPhase.noConfusion (hphase.symm.trans hmerging)
  · exact fun hmerged => CallPhase.noConfusion (hphase.symm.trans hmerged)

theorem ChannelTracks.storeValid (htracks : ChannelTracks channel config)
    (hwriter : config.state.writer = .storeValid channel) :
    ChannelTracks channel (machine.advance config .writer) := by
  have hnext : machine.next config.state .writer =
      { config.state.setCell channel { config.state.cells channel with valid := true } with
        writer := .idle } := by
    change config.state.writerStep = _
    rw [writerStep, hwriter]
  have hcell := cells_setCell channel { config.state.cells channel with valid := true }
    config.state
  have hreturned : (machine.next config.state .writer).calling channel = false := by
    rw [hnext]
    rfl
  have hphase : callPhase channel (machine.advance config .writer).history = .returned := by
    have hcalling : config.state.calling channel = true := by
      rw [calling, hwriter]
      exact decide_eq_true rfl
    have hbegins : beginsCall channel (machine.visit config.state .writer) = false := by
      rw [beginsCall, Machine.visit_after, hreturned, Bool.and_false]
    have hreturns : returns channel (machine.visit config.state .writer) = true := by
      rw [returns, Machine.visit_after, Machine.visit_before, hreturned, hcalling]
      rfl
    rw [Machine.advance_history, callPhase, hbegins, hreturns, if_neg Bool.false_ne_true, if_pos rfl]
  have hwritten : written channel (machine.advance config .writer).history =
      written channel config.history := by
    refine written_of_unwritten ?_ config.history
    rw [written?, Machine.visit_action, Machine.visit_before, hwriter]
  have hsome := htracks.called hwriter
  have hvalid : ((machine.advance config .writer).state.cells channel).valid = true := by
    rw [Machine.advance_state, hnext]
    exact congrArg PendingCell.valid hcell
  refine ⟨?_, ?_, ?_, fun _ => hvalid, ?_, ?_, ?_, ?_, ?_⟩
  · rw [hwritten, Machine.advance_state, hnext]
    exact fun last hlast => (congrArg PendingCell.value hcell).trans (htracks.value last hlast)
  · rw [hwritten]
    exact fun _ => hsome
  · rw [hwritten]
    exact fun _ => hsome
  · exact fun _ hcleared => absurd (hcleared.symm.trans hvalid) Bool.false_ne_true
  · rw [hwritten, Machine.advance_state, hnext]
    exact htracks.loaded
  · rw [hwritten]
    exact fun _ => ⟨hreturned, hsome⟩
  · exact fun hmerging => CallPhase.noConfusion (hphase.symm.trans hmerging)
  · exact fun hmerged => CallPhase.noConfusion (hphase.symm.trans hmerged)

/-! ### Every interleaving -/

theorem ChannelTracks.of_nothing (htracks : ChannelTracks channel config)
    (hunwritten : written? channel (machine.visit config.state action) = none)
    (hnext : machine.next config.state action = config.state) :
    ChannelTracks channel (machine.advance config action) := by
  refine htracks.of_writer_elsewhere hunwritten ?_ ?_ ?_ ?_
  · rw [hnext]
  · rw [hnext]
    exact id
  · rw [hnext]
  · rw [hnext]

theorem PendingChannel.rank_injective {first second : PendingChannel}
    (hrank : first.rank = second.rank) : first = second := by
  cases first <;> cases second <;> first | rfl | exact absurd hrank (by decide)

theorem ChannelTracks.writerStep (htracks : ChannelTracks channel config) :
    ChannelTracks channel (machine.advance config .writer) := by
  cases hwriter : config.state.writer with
  | idle =>
      have hunwritten : written? channel (machine.visit config.state .writer) = none := by
        rw [written?, Machine.visit_action, Machine.visit_before, hwriter]
      refine htracks.of_nothing hunwritten ?_
      change config.state.writerStep = _
      rw [PendingState.writerStep, hwriter]
  | storeValue called value =>
      by_cases hcalled : called = channel
      · subst hcalled
        exact htracks.storeValue hwriter
      · have hunwritten : written? channel (machine.visit config.state .writer) = none := by
          rw [written?, Machine.visit_action, Machine.visit_before, hwriter]
          exact dif_neg hcalled
        have hnext : machine.next config.state .writer =
            { config.state.setCell called { config.state.cells called with value := value } with
              writer := .storeValid called } := by
          change config.state.writerStep = _
          rw [PendingState.writerStep, hwriter]
        refine htracks.of_writer_elsewhere hunwritten ?_ ?_ ?_ ?_
        · rw [hnext, calling, calling, hwriter]
        · rw [hnext]
          intro hstore
          injection hstore with hsame
          exact absurd hsame hcalled
        · rw [hnext]
          exact cells_setCell_of_ne (Ne.symm hcalled) _ _
        · rw [hnext]
          rfl
  | storeValid called =>
      by_cases hcalled : called = channel
      · subst hcalled
        exact htracks.storeValid hwriter
      · have hunwritten : written? channel (machine.visit config.state .writer) = none := by
          rw [written?, Machine.visit_action, Machine.visit_before, hwriter]
        have hnext : machine.next config.state .writer =
            { config.state.setCell called { config.state.cells called with valid := true } with
              writer := .idle } := by
          change config.state.writerStep = _
          rw [PendingState.writerStep, hwriter]
        refine htracks.of_writer_elsewhere hunwritten ?_ ?_ ?_ ?_
        · rw [hnext, calling, calling, hwriter]
          exact (decide_eq_false hcalled).symm
        · rw [hnext]
          exact fun hstore => PendingWriter.noConfusion hstore
        · rw [hnext]
          exact cells_setCell_of_ne (Ne.symm hcalled) _ _
        · rw [hnext]
          rfl

/-- The channel that the next access of the merge is on. -/
def mergingChannel? : PendingJob → Option PendingChannel
  | .idle => none
  | .loadValid merged => some merged
  | .loadValue merged => some merged
  | .storeTarget merged _ => some merged
  | .clearValid merged => some merged

theorem past_of_channel {state : PendingState} {merged : PendingChannel}
    (hmerged : mergingChannel? state.job = some merged) (channel : PendingChannel) :
    state.past channel = decide (channel.rank < merged.rank) ∧ state.jobIdle = false := by
  unfold past jobIdle
  cases hjob : state.job with
  | idle =>
      rw [hjob] at hmerged
      exact absurd hmerged (by simp [mergingChannel?])
  | _ =>
      rw [hjob] at hmerged
      injection hmerged with hsame
      subst hsame
      exact ⟨rfl, rfl⟩

theorem rank_le_of_afterChannel {merged : PendingChannel} {state : PendingState}
    (hjob : state.job = afterChannel merged) (hpast : state.past channel = true) :
    channel.rank ≤ merged.rank := by
  rw [rank_lt_afterChannel channel merged _ hjob] at hpast
  exact of_decide_eq_true hpast

theorem jobStep_of_other {state : PendingState} {merged : PendingChannel}
    (hmerged : mergingChannel? state.job = some merged) (hother : channel ≠ merged) :
    state.jobStep.writer = state.writer ∧ state.jobStep.cells channel = state.cells channel ∧
      state.jobStep.taking channel = false ∧
      (state.jobStep.past channel = true → channel.rank ≤ merged.rank) := by
  have hnottaking : decide (merged = channel) = false := decide_eq_false (Ne.symm hother)
  unfold PendingState.jobStep
  cases hjob : state.job with
  | idle =>
      rw [hjob] at hmerged
      exact absurd hmerged (by simp [mergingChannel?])
  | loadValid current =>
      rw [hjob] at hmerged
      obtain rfl : current = merged := Option.some.inj hmerged
      dsimp only
      split
      · exact ⟨rfl, rfl, hnottaking, fun hpast => Nat.le_of_lt (of_decide_eq_true hpast)⟩
      · exact ⟨rfl, rfl, taking_of_afterChannel rfl, rank_le_of_afterChannel rfl⟩
  | loadValue current =>
      rw [hjob] at hmerged
      obtain rfl : current = merged := Option.some.inj hmerged
      exact ⟨rfl, rfl, hnottaking, fun hpast => Nat.le_of_lt (of_decide_eq_true hpast)⟩
  | storeTarget current value =>
      rw [hjob] at hmerged
      obtain rfl : current = merged := Option.some.inj hmerged
      exact ⟨rfl, cells_setCell_of_ne hother _ _, hnottaking,
        fun hpast => Nat.le_of_lt (of_decide_eq_true hpast)⟩
  | clearValid current =>
      rw [hjob] at hmerged
      obtain rfl : current = merged := Option.some.inj hmerged
      exact ⟨rfl, cells_setCell_of_ne hother _ _, taking_of_afterChannel rfl,
        rank_le_of_afterChannel rfl⟩

theorem ChannelTracks.of_other (htracks : ChannelTracks channel config) {merged : PendingChannel}
    (hmerged : mergingChannel? config.state.job = some merged) (hother : channel ≠ merged) :
    ChannelTracks channel (machine.advance config .job) := by
  obtain ⟨hwriter, hcell, htaking, hpast⟩ := jobStep_of_other hmerged hother
  obtain ⟨hbefore, hbusy⟩ := past_of_channel hmerged channel
  refine htracks.of_job_elsewhere (writing_of_job rfl) hwriter hcell htaking fun hpassed => ?_
  have hle := hpast hpassed
  have hne : channel.rank ≠ merged.rank := fun hrank => hother (PendingChannel.rank_injective hrank)
  exact ⟨hbefore.trans (decide_eq_true (by omega)), hbusy⟩

theorem ChannelTracks.jobStep (htracks : ChannelTracks channel config)
    (hclears : clearsApplied config.state .job = true) :
    ChannelTracks channel (machine.advance config .job) := by
  cases hjob : config.state.job with
  | idle =>
      refine htracks.of_nothing (writing_of_job rfl) ?_
      change config.state.jobStep = _
      rw [PendingState.jobStep, hjob]
  | loadValid merged =>
      by_cases hmerged : channel = merged
      · subst hmerged
        exact htracks.loadValid hjob
      · exact htracks.of_other (by rw [hjob]; rfl) hmerged
  | loadValue merged =>
      by_cases hmerged : channel = merged
      · subst hmerged
        exact htracks.loadValue hjob
      · exact htracks.of_other (by rw [hjob]; rfl) hmerged
  | storeTarget merged value =>
      by_cases hmerged : channel = merged
      · subst hmerged
        exact htracks.storeTarget hjob
      · exact htracks.of_other (by rw [hjob]; rfl) hmerged
  | clearValid merged =>
      by_cases hmerged : channel = merged
      · subst hmerged
        refine htracks.clearValid hjob fun hidle => ?_
        simpa [clearsApplied, hjob, hidle] using hclears
      · exact htracks.of_other (by rw [hjob]; rfl) hmerged

theorem ChannelTracks.advance (htracks : ChannelTracks channel config)
    (hclears : clearsApplied config.state action = true) :
    ChannelTracks channel (machine.advance config action) := by
  cases action with
  | call called value =>
      cases hwriter : config.state.writer with
      | idle =>
          by_cases hcalled : called = channel
          · subst hcalled
            exact htracks.call value hwriter
          · have hnext : machine.next config.state (.call called value) =
                { config.state with writer := .storeValue called value } := by
              change config.state.call called value = _
              rw [PendingState.call, hwriter]
            refine htracks.of_writer_elsewhere rfl ?_ ?_ ?_ ?_
            · rw [hnext, calling, calling, hwriter]
              exact decide_eq_false hcalled
            · rw [hnext]
              exact fun hstore => PendingWriter.noConfusion hstore
            · rw [hnext]
            · rw [hnext]
      | storeValue busy stored =>
          refine htracks.of_nothing rfl ?_
          change config.state.call called value = _
          rw [PendingState.call, hwriter]
      | storeValid busy =>
          refine htracks.of_nothing rfl ?_
          change config.state.call called value = _
          rw [PendingState.call, hwriter]
  | beginMerge =>
      cases hidle : config.state.jobIdle with
      | true =>
          have hnext : machine.next config.state .beginMerge =
              { config.state with job := .loadValid .position } := by
            change config.state.beginMerge = _
            unfold PendingState.beginMerge
            unfold jobIdle at hidle
            cases hjob : config.state.job with
            | idle => rfl
            | _ => simp [hjob] at hidle
          refine htracks.of_job_elsewhere rfl ?_ ?_ ?_ ?_
          · rw [hnext]
          · rw [hnext]
          · rw [hnext]
            rfl
          · rw [hnext]
            intro hpast
            have hlt : channel.rank < PendingChannel.position.rank := of_decide_eq_true hpast
            exact absurd hlt (Nat.not_lt_zero _)
      | false =>
          refine htracks.of_nothing rfl ?_
          change config.state.beginMerge = _
          unfold PendingState.beginMerge
          unfold jobIdle at hidle
          cases hjob : config.state.job with
          | idle => simp [hjob] at hidle
          | _ => rfl
  | writer => exact htracks.writerStep
  | job => exact htracks.jobStep hclears

theorem channelTracks_start {cells : (channel : PendingChannel) → PendingCell channel.Value}
    (hnone : ∀ channel, (cells channel).valid = false) (channel : PendingChannel) :
    ChannelTracks channel (.start { cells := cells }) where
  value := fun _ hhead => absurd hhead (by simp [written])
  flagged := fun hvalid => absurd ((hnone channel).symm.trans hvalid) Bool.false_ne_true
  called := fun hwriter => PendingWriter.noConfusion hwriter
  taken := fun htaking => absurd htaking Bool.false_ne_true
  arrived := fun _ _ _ hhead => absurd hhead (by simp [written])
  loaded := fun _ hjob => PendingJob.noConfusion hjob
  returned := fun hphase => absurd rfl hphase
  merging := fun hphase => CallPhase.noConfusion hphase
  merged := fun hphase => CallPhase.noConfusion hphase

/-- What a merge applies was written before. -/
theorem ChannelTracks.written_of_applied (htracks : ChannelTracks channel config)
    {value : channel.Value}
    (happlied : applied? channel (machine.visit config.state action) = some value) :
    value ∈ written channel config.history := by
  unfold applied? at happlied
  split at happlied
  · rename_i merged stored haction hjob
    split at happlied
    · rename_i hmerged
      subst hmerged
      rw [← Option.some.inj happlied]
      exact htracks.loaded stored hjob
    · exact absurd happlied (Option.some_ne_none value).symm
  · exact absurd happlied (Option.some_ne_none value).symm

/-- In every interleaving in which no flag is cleared over a value that was not applied, no setpoint
is lost. -/
theorem setpointsArrive_of_clearsApplied
    {cells : (channel : PendingChannel) → PendingCell channel.Value}
    (hnone : ∀ channel, (cells channel).valid = false) {actions : List PendingAction}
    (hmeets : machine.Meets (fun config action => clearsApplied config.state action = true)
      (.start { cells := cells }) actions) :
    SetpointsArrive (machine.exec (.start { cells := cells }) actions) := by
  have hstep : ∀ (config : PendingConfig) (action : PendingAction),
      (∀ channel, ChannelTracks channel config) ∧ SetpointsArrive config →
        clearsApplied config.state action = true →
          (∀ channel, ChannelTracks channel (machine.advance config action)) ∧
            SetpointsArrive (machine.advance config action) := by
    intro config action hboth hclears
    have hafter := fun channel => (hboth.1 channel).advance hclears
    refine ⟨hafter, fun channel => ⟨?_, fun hmerged => ((hafter channel).merged hmerged).1⟩⟩
    intro visit earlier hhistory value happlied
    obtain ⟨rfl, rfl⟩ := List.cons.inj hhistory
    exact (hboth.1 channel).written_of_applied happlied
  have hnothing : SetpointsArrive (.start { cells := cells }) := by
    refine fun channel => ⟨fun visit earlier hhistory => ?_, fun hmerged => ?_⟩
    · exact absurd hhistory (List.cons_ne_nil _ _).symm
    · exact CallPhase.noConfusion hmerged
  exact (machine.exec_invariant_of_meets hstep ⟨channelTracks_start hnone, hnothing⟩ hmeets).2

/-! ### A write in the middle of a merge -/

def restingCells : (channel : PendingChannel) → PendingCell channel.Value :=
  (ofSetpoints {}).cells

def positionCall (position : Int32) : List PendingAction :=
  [.call .position position, .writer, .writer]

/-- A second call returns before the merge clears the flag, and has no effect on what it applies. -/
theorem setpointsArrive_of_early_call :
    SetpointsArrive (machine.exec (.start { cells := restingCells })
      (positionCall 1 ++ [.beginMerge, .job] ++ positionCall 2 ++
        [.job, .job, .job, .job, .job, .beginMerge, .job, .job, .job])) := by
  refine setpointsArrive_of_clearsApplied (fun channel => ?_) (by decide +kernel)
  cases channel <;> rfl

/-- A second call returns after the merge has loaded the value of the first one. -/
theorem not_setpointsArrive :
    ¬ ∀ (cells : (channel : PendingChannel) → PendingCell channel.Value)
      (actions : List PendingAction), (∀ channel, (cells channel).valid = false) →
        SetpointsArrive (machine.exec (.start { cells := cells }) actions) := by
  intro hall
  have harrive := hall restingCells
    (positionCall 1 ++ [.beginMerge, .job, .job] ++ positionCall 2 ++
      [.job, .job, .job, .job, .beginMerge, .job, .job, .job])
    (by intro channel; cases channel <;> rfl)
  have hlast := (harrive .position).2 (by decide +kernel)
  exact absurd hlast (by decide +kernel)

end PendingState

end IghMaster
