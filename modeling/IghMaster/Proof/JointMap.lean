import IghMaster.JointMap
import IghMaster.Proof.MasterSteps

/-!
# What a map leaves behind

Which buses `map_joints` accepts, and what a call that it refuses has already written.
-/

namespace IghMaster

open Transition

/-! ### The checks -/

namespace AxisConfig

theorem validatePrevious_eq_none_iff (candidate : AxisConfig) (previous : List AxisConfig) :
    candidate.validatePrevious previous = .none ↔ ∀ axis ∈ previous, axis.Differs candidate := by
  induction previous with
  | nil => simp [validatePrevious]
  | cons axis previous ih =>
      have haddress : axis.address = candidate.address ↔
          axis.busAlias = candidate.busAlias ∧ axis.position = candidate.position := Prod.mk_inj
      rw [validatePrevious, List.forall_mem_cons, ← ih, Differs, Ne, Ne, haddress]
      split_ifs with hname hplace
      · exact iff_of_false (by simp) fun h => h.1.1 hname
      · exact iff_of_false (by simp) fun h => h.1.2 hplace
      · exact (and_iff_right ⟨hname, hplace⟩).symm

theorem isIdentified_eq_true_iff {slave : AxisConfig} :
    slave.isIdentified = true ↔ ¬ (slave.vendorId = 0 ∨ slave.productCode = 0) := by
  simp [isIdentified]

/-- The scan accepts the axes that are named and identified and that differ from every axis before. -/
theorem validateFrom_eq_none_iff (previous axes : List AxisConfig) :
    validateFrom previous axes = .none ↔
      (∀ axis ∈ axes, axis.isNamed = true ∧ axis.isIdentified = true) ∧
        (∀ earlier ∈ previous, ∀ axis ∈ axes, earlier.Differs axis) ∧ axes.Pairwise Differs := by
  induction axes generalizing previous with
  | nil => simp [validateFrom]
  | cons candidate axes ih =>
      rw [validateFrom]
      split_ifs with hunnamed hmissing
      · refine iff_of_false (by simp) fun h => ?_
        have hnamed := (h.1 candidate (by simp)).1
        rw [isNamed, hunnamed] at hnamed
        exact Bool.false_ne_true hnamed
      · exact iff_of_false (by simp) fun h =>
          isIdentified_eq_true_iff.mp (h.1 candidate (by simp)).2 hmissing
      · have hnamed : candidate.isNamed = true := by simpa [isNamed] using hunnamed
        have hidentified := isIdentified_eq_true_iff.mpr hmissing
        have hscan := validatePrevious_eq_none_iff candidate previous
        split
        · rename_i hnone
          rw [ih, List.forall_mem_append, List.forall_mem_singleton, List.forall_mem_cons,
            List.pairwise_cons]
          have hearlier := hscan.mp hnone
          constructor
          · rintro ⟨hall, ⟨hbefore, hafter⟩, hpairs⟩
            refine ⟨⟨⟨hnamed, hidentified⟩, hall⟩, fun earlier hmem => ?_, hafter, hpairs⟩
            exact List.forall_mem_cons.mpr ⟨hearlier earlier hmem, hbefore earlier hmem⟩
          · rintro ⟨⟨_, hall⟩, hbefore, hafter, hpairs⟩
            refine ⟨hall, ⟨fun earlier hmem => ?_, hafter⟩, hpairs⟩
            exact (List.forall_mem_cons.mp (hbefore earlier hmem)).2
        · rename_i hclash
          refine iff_of_false hclash fun h => hclash ?_
          exact hscan.mpr fun earlier hmem => h.2.1 earlier hmem candidate (by simp)

end AxisConfig

theorem validateAxisConfigs_eq_none_iff (axes : List AxisConfig) :
    validateAxisConfigs axes = .none ↔
      axes.length ≤ 7 ∧ (∀ axis ∈ axes, axis.isNamed = true ∧ axis.isIdentified = true) ∧
        axes.Pairwise AxisConfig.Differs := by
  unfold validateAxisConfigs
  split_ifs with hmany
  · exact iff_of_false (by simp) fun h => by omega
  · rw [AxisConfig.validateFrom_eq_none_iff, and_iff_right (by omega : axes.length ≤ 7)]
    simp

theorem validateBusSlaves_eq_true_iff (slaves : List AxisConfig) :
    validateBusSlaves slaves = true ↔
      ∀ slave ∈ slaves, slave.isIdentified = true ∧ slave.isSriM8126 = true := by
  rw [validateBusSlaves, List.all_eq_true]
  refine forall₂_congr fun slave _ => ?_
  rw [Bool.and_eq_true]
  rfl

namespace Master

/-! ### What the call does -/

section Call

variable (bus : BusSetup) (config : IghMasterConfig) {axes slaves : List AxisConfig}
  (master : Master)

theorem mapListsPass_eq_true_iff :
    mapListsPass axes slaves = true ↔
      validateAxisConfigs axes = .none ∧ validateBusSlaves slaves = true ∧
        (axes.isEmpty && slaves.isEmpty) = false := by
  rw [mapListsPass, Bool.and_eq_true, Bool.and_eq_true, beq_iff_eq, Bool.not_eq_true', and_assoc]

/-- Lists that do not pass are refused before anything is written. -/
theorem mapJoints_of_not_pass (hpass : mapListsPass axes slaves = false) :
    ∃ error, master.mapJoints bus config axes slaves = (master, some error) := by
  have hnot : ¬ (validateAxisConfigs axes = .none ∧ validateBusSlaves slaves = true ∧
      (axes.isEmpty && slaves.isEmpty) = false) := by
    rw [← mapListsPass_eq_true_iff, hpass]
    exact Bool.false_ne_true
  unfold mapJoints
  dsimp only
  split_ifs with haxes hslaves hempty
  · exact ⟨_, rfl⟩
  · exact ⟨_, rfl⟩
  · exact ⟨_, rfl⟩
  all_goals
    exact absurd ⟨not_not.mp haxes, by simpa using hslaves, by simpa using hempty⟩ hnot

/-- Lists that pass are named in the master, whatever comes of them. -/
theorem mapJoints_of_pass (hpass : mapListsPass axes slaves = true) :
    (master.mapJoints bus config axes slaves).2.isSome = !master.mapSucceeds bus config axes slaves ∧
      (master.mapJoints bus config axes slaves).1.jointMap =
        (if master.mapSucceeds bus config axes slaves then axes else master.axes,
          axes.map AxisConfig.jointName, firstForceSensor axes slaves) := by
  obtain ⟨haxes, hslaves, hempty⟩ := mapListsPass_eq_true_iff.mp hpass
  rw [mapJoints]
  dsimp only
  rw [if_neg (not_not.mpr haxes), if_neg (by simp [hslaves]), if_neg (by simp [hempty])]
  by_cases hsensors : 1 < (motorConfigs axes slaves).countP MotorConfig.isSriM8126
  · have hfails : master.mapSucceeds bus config axes slaves = false := by
      rw [mapSucceeds, decide_eq_false (by omega), Bool.false_and]
    rw [motorConfigs] at hsensors
    rw [if_pos hsensors, hfails]
    exact ⟨rfl, rfl⟩
  · have hsucceeds : master.mapSucceeds bus config axes slaves =
        (master.backend.initializeServo bus config (motorConfigs axes slaves)).2 := by
      rw [mapSucceeds, decide_eq_true (by omega), Bool.true_and]
    rw [hsucceeds]
    rw [motorConfigs] at hsensors ⊢
    rw [if_neg hsensors]
    split_ifs with hinitialized
    · rw [hinitialized]
      exact ⟨rfl, rfl⟩
    · rw [Bool.not_eq_true] at hinitialized
      rw [hinitialized]
      exact ⟨rfl, rfl⟩

/-- A map is accepted just if its lists pass and the servo takes them. -/
theorem mapJoints_eq_none_iff :
    (master.mapJoints bus config axes slaves).2 = none ↔
      mapListsPass axes slaves = true ∧ master.mapSucceeds bus config axes slaves = true := by
  cases hpass : mapListsPass axes slaves with
  | false =>
      obtain ⟨error, hrefused⟩ := mapJoints_of_not_pass bus config master hpass
      rw [hrefused]
      simp
  | true =>
      have hresult := (mapJoints_of_pass bus config master hpass).1
      rw [← Option.not_isSome_iff_eq_none, hresult]
      simp

end Call

/-! ### What an accepted bus is free of -/

theorem countP_motorConfigs (axes slaves : List AxisConfig) :
    (motorConfigs axes slaves).countP MotorConfig.isSriM8126 =
      (axes ++ slaves).countP AxisConfig.isSriM8126 := by
  rw [motorConfigs, List.countP_map]
  rfl

/-- The bus slaves are force sensors, so that a bus with one sensor has at most one of them. -/
theorem length_slaves_le {axes slaves : List AxisConfig}
    (hslaves : ∀ slave ∈ slaves, slave.isSriM8126 = true)
    (hsensors : (axes ++ slaves).countP AxisConfig.isSriM8126 ≤ 1) : slaves.length ≤ 1 := by
  have hall : slaves.countP AxisConfig.isSriM8126 = slaves.length :=
    List.countP_eq_length.mpr hslaves
  rw [List.countP_append, hall] at hsensors
  omega

theorem nodup_addresses_iff {axes slaves : List AxisConfig}
    (haxes : axes.Pairwise AxisConfig.Differs) (hslaves : slaves.length ≤ 1) :
    ((axes ++ slaves).map AxisConfig.address).Nodup ↔
      ∀ axis ∈ axes, ∀ slave ∈ slaves, axis.address ≠ slave.address := by
  have hfirst : (axes.map AxisConfig.address).Nodup :=
    List.pairwise_map.mpr (haxes.imp fun hdiffers => hdiffers.2)
  have hsecond : (slaves.map AxisConfig.address).Nodup := by
    match slaves, hslaves with
    | [], _ => exact List.nodup_nil
    | [slave], _ => exact List.nodup_singleton _
  rw [List.map_append, List.nodup_append, and_iff_right hfirst, and_iff_right hsecond]
  simp only [List.forall_mem_map]

/-- **An accepted bus map has no clashes** just if no bus slave has the address of an axis. -/
theorem accepted_map_no_clashes_iff (bus : BusSetup) (config : IghMasterConfig)
    (axes slaves : List AxisConfig) (master : Master)
    (haccepted : (master.mapJoints bus config axes slaves).2 = none) :
    NoClashes axes slaves ↔ ∀ axis ∈ axes, ∀ slave ∈ slaves, axis.address ≠ slave.address := by
  obtain ⟨hpass, hsucceeds⟩ := (mapJoints_eq_none_iff bus config master).mp haccepted
  obtain ⟨haxes, hslaves, -⟩ := mapListsPass_eq_true_iff.mp hpass
  obtain ⟨hcount, hnamed, hdiffer⟩ := (validateAxisConfigs_eq_none_iff axes).mp haxes
  have hbus := (validateBusSlaves_eq_true_iff slaves).mp hslaves
  have hsensors : (axes ++ slaves).countP AxisConfig.isSriM8126 ≤ 1 := by
    rw [mapSucceeds, Bool.and_eq_true, decide_eq_true_eq, countP_motorConfigs] at hsucceeds
    exact hsucceeds.1
  have hfew := length_slaves_le (fun slave hmem => (hbus slave hmem).2) hsensors
  rw [← nodup_addresses_iff hdiffer hfew]
  refine ⟨NoClashes.addresses, fun haddresses => ?_⟩
  refine ⟨hcount, fun axis hmem => (hnamed axis hmem).1, ?_, ?_, hsensors, haddresses⟩
  · exact List.pairwise_map.mpr (hdiffer.imp fun hdiffers => hdiffers.1)
  · intro slave hmem
    rcases List.mem_append.mp hmem with haxis | hslave
    · exact (hnamed slave haxis).2
    · exact (hbus slave hslave).1

theorem gateway_map_no_clashes :
    (mapJoints gatewayBus {} [gatewayAxis] [forceSensor 1]
        { policy := .supervisedMotion }).2 = none ∧
      NoClashes [gatewayAxis] [forceSensor 1] := by
  have haccepted : (mapJoints gatewayBus {} [gatewayAxis] [forceSensor 1]
      { policy := .supervisedMotion }).2 = none := by decide +kernel
  refine ⟨haccepted, (accepted_map_no_clashes_iff _ _ _ _ _ haccepted).mpr ?_⟩
  decide

/-- A force sensor at the place of a gateway takes the identity that the bus reports, and with it the
entries of the gateway. -/
theorem map_accepts_shared_address :
    (mapJoints gatewayBus {} [gatewayAxis] [forceSensor 0]
        { policy := .supervisedMotion }).2 = none ∧
      ¬ NoClashes [gatewayAxis] [forceSensor 0] := by
  refine ⟨by decide +kernel, fun hclear => ?_⟩
  have haddresses := hclear.addresses
  revert haddresses
  decide

/-! ### The members of the map in a run -/

theorem jointMap_start (input : StartInput) (master : Master) :
    (master.start input).1.jointMap = master.jointMap := by
  unfold start
  split
  · rfl
  · dsimp only
    split <;> rfl

theorem next_of_taken {master : Master} {action : MasterAction} {call : MasterCall}
    (htaken : taken (machine.visit master action) = some call) :
    master.next action = master.perform call := by
  cases action with
  | call given =>
      cases hstarting : master.starting with
      | some phase =>
          rw [taken, machine.visit_action, machine.visit_before, hstarting] at htaken
          exact absurd htaken (by simp)
      | none =>
          rw [taken_call hstarting, Option.some.injEq] at htaken
          rw [next_call hstarting, htaken]
  | continueStart observed => exact absurd htaken (by simp [taken])
  | job input => exact absurd htaken (by simp [taken])

/-- The visit is a map of these lists, refused or not. -/
def IsMap (visit : MasterVisit) : Prop :=
  ∃ bus config axes slaves, taken visit = some (.mapJoints bus config axes slaves)

/-- An action that is no map leaves the members of the map. -/
theorem jointMap_next {master : Master} {action : MasterAction}
    (hother : ¬ IsMap (machine.visit master action)) :
    (master.next action).jointMap = master.jointMap := by
  by_cases hstart : ∃ input, action = .call (.start input)
  · obtain ⟨input, rfl⟩ := hstart
    cases hstarting : master.starting with
    | some phase => rw [next_call_of_starting hstarting]
    | none =>
        rw [next_call hstarting]
        exact jointMap_start input master
  by_cases hmap : ∃ bus config axes slaves, action = .call (.mapJoints bus config axes slaves)
  · obtain ⟨bus, config, axes, slaves, rfl⟩ := hmap
    cases hstarting : master.starting with
    | some phase => rw [next_call_of_starting hstarting]
    | none => exact absurd ⟨bus, config, axes, slaves, taken_call hstarting _⟩ hother
  · have hsettings := settings_next master (fun input h => hstart ⟨input, h⟩)
      fun bus config axes slaves h => hmap ⟨bus, config, axes, slaves, h⟩
    exact congrArg Prod.snd hsettings

/-! ### Consistency along a run -/

def NamesMatch (master : Master) : Prop :=
  master.jointNames = master.axes.map AxisConfig.jointName

theorem NamesMatch.of_jointMap {master after : Master} (hmatch : master.NamesMatch)
    (hsame : after.jointMap = master.jointMap) : after.NamesMatch := by
  obtain ⟨haxes, hnames, _⟩ : after.axes = master.axes ∧ after.jointNames = master.jointNames ∧
      after.forceSensorSlaveIndex = master.forceSensorSlaveIndex := by
    simpa [jointMap] using hsame
  rw [NamesMatch, hnames, haxes]
  exact hmatch

theorem mapConsistent_iff {visit : MasterVisit} :
    MapConsistent visit ↔ visit.after.NamesMatch ∧
      (isRefusedMap visit = true →
        visit.after.jointNames = visit.before.jointNames ∧
          visit.after.axisCount = visit.before.axisCount ∧
            visit.after.forceSensorSlaveIndex = visit.before.forceSensorSlaveIndex) := by
  have hnames : visit.after.NamesMatch ↔
      visit.after.jointNames.length = visit.after.axisCount ∧
        ∀ (index : Nat) (axis : AxisConfig), visit.after.axes[index]? = some axis →
          visit.after.jointNames[index]? = some axis.jointName := by
    constructor
    · intro hmatch
      rw [NamesMatch] at hmatch
      rw [hmatch]
      exact ⟨List.length_map _, fun index axis haxis => by simp [haxis]⟩
    · rintro ⟨hcount, hnames⟩
      refine List.ext_getElem? fun index => ?_
      rw [List.getElem?_map]
      cases haxis : visit.after.axes[index]? with
      | some axis => exact hnames index axis haxis
      | none =>
          rw [List.getElem?_eq_none_iff] at haxis
          rw [Option.map_none, List.getElem?_eq_none_iff, hcount]
          exact haxis
  rw [hnames]
  exact ⟨fun h => ⟨⟨h.count, h.names⟩, h.kept⟩, fun h => ⟨h.1.1, h.1.2, h.2⟩⟩

theorem mapConsistent_of_jointMap {master : Master} (hmatch : master.NamesMatch)
    {action : MasterAction} (hsame : (master.next action).jointMap = master.jointMap) :
    MapConsistent (machine.visit master action) := by
  refine mapConsistent_iff.mpr ⟨hmatch.of_jointMap hsame, fun _ => ?_⟩
  obtain ⟨haxes, hnames, hsensor⟩ : (master.next action).axes = master.axes ∧
      (master.next action).jointNames = master.jointNames ∧
        (master.next action).forceSensorSlaveIndex = master.forceSensorSlaveIndex := by
    simpa [jointMap] using hsame
  exact ⟨hnames, congrArg List.length haxes, hsensor⟩

section Map

variable {master : Master} {action : MasterAction} {bus : BusSetup} {config : IghMasterConfig}
  {axes slaves : List AxisConfig}

theorem keepsMap_iff_of_taken
    (htaken : taken (machine.visit master action) = some (.mapJoints bus config axes slaves)) :
    KeepsMap (machine.visit master action) ↔
      (master.mapFailsLate bus config axes slaves = true →
        axes.map AxisConfig.jointName = master.jointNames ∧
          firstForceSensor axes slaves = master.forceSensorSlaveIndex) := by
  constructor
  · exact fun hkeeps => hkeeps bus config axes slaves htaken
  · intro hkeeps bus' config' axes' slaves' htaken'
    rw [htaken, Option.some.injEq, MasterCall.mapJoints.injEq] at htaken'
    obtain ⟨rfl, rfl, rfl, rfl⟩ := htaken'
    exact hkeeps

theorem isRefusedMap_of_taken
    (htaken : taken (machine.visit master action) = some (.mapJoints bus config axes slaves)) :
    isRefusedMap (machine.visit master action) =
      (master.mapJoints bus config axes slaves).2.isSome := by
  rw [isRefusedMap, htaken]
  rfl

/-- A map whose lists pass and that fails all the same has written the names and the sensor of these
lists, so it is consistent just if the master had them already. -/
theorem mapConsistent_iff_of_failing (hmatch : master.NamesMatch)
    (hrefused : isRefusedMap (machine.visit master action) = true)
    (hwritten : (master.next action).jointMap =
      (master.axes, axes.map AxisConfig.jointName, firstForceSensor axes slaves)) :
    MapConsistent (machine.visit master action) ↔
      axes.map AxisConfig.jointName = master.jointNames ∧
        firstForceSensor axes slaves = master.forceSensorSlaveIndex := by
  simp only [jointMap, Prod.mk.injEq] at hwritten
  obtain ⟨haxes, hnames, hsensor⟩ := hwritten
  rw [mapConsistent_iff, hrefused]
  constructor
  · rintro ⟨_, hkept⟩
    obtain ⟨hsame, _, hsensors⟩ := hkept rfl
    exact ⟨hnames.symm.trans hsame, hsensor.symm.trans hsensors⟩
  · rintro ⟨hsame, hsensors⟩
    have hafter : (master.next action).jointNames = master.jointNames := hnames.trans hsame
    have hcount : (master.next action).axisCount = master.axisCount := congrArg List.length haxes
    refine ⟨?_, fun _ => ⟨hafter, hcount, hsensor.trans hsensors⟩⟩
    change (master.next action).jointNames = (master.next action).axes.map _
    rw [hafter, haxes]
    exact hmatch

theorem mapConsistent_of_succeeding
    (hsucceeds : isRefusedMap (machine.visit master action) = false)
    (hwritten : (master.next action).jointMap =
      (axes, axes.map AxisConfig.jointName, firstForceSensor axes slaves)) :
    MapConsistent (machine.visit master action) := by
  simp only [jointMap, Prod.mk.injEq] at hwritten
  obtain ⟨haxes, hnames, -⟩ := hwritten
  refine mapConsistent_iff.mpr ⟨?_, fun hrefused => ?_⟩
  · exact hnames.trans (congrArg (List.map AxisConfig.jointName) haxes).symm
  · rw [hsucceeds] at hrefused
    exact absurd hrefused Bool.false_ne_true

end Map

theorem mapConsistent_visit_iff {master : Master} (hmatch : master.NamesMatch)
    (action : MasterAction) :
    MapConsistent (machine.visit master action) ↔ KeepsMap (machine.visit master action) := by
  by_cases hmap : IsMap (machine.visit master action)
  swap
  · refine iff_of_true (mapConsistent_of_jointMap hmatch (jointMap_next hmap)) ?_
    exact fun bus config axes slaves htaken => absurd ⟨bus, config, axes, slaves, htaken⟩ hmap
  obtain ⟨bus, config, axes, slaves, htaken⟩ := hmap
  have hnext : master.next action = (master.mapJoints bus config axes slaves).1 :=
    next_of_taken htaken
  have hrefused := isRefusedMap_of_taken htaken
  rw [keepsMap_iff_of_taken htaken, mapFailsLate]
  cases hpass : mapListsPass axes slaves with
  | false =>
      obtain ⟨error, hunchanged⟩ := mapJoints_of_not_pass bus config master hpass
      rw [hunchanged] at hnext
      exact iff_of_true (mapConsistent_of_jointMap hmatch (congrArg jointMap hnext)) (by simp)
  | true =>
      obtain ⟨hresult, hwritten⟩ := mapJoints_of_pass bus config master hpass
      rw [← hnext] at hwritten
      rw [hresult] at hrefused
      cases hsucceeds : master.mapSucceeds bus config axes slaves with
      | true =>
          rw [hsucceeds] at hrefused hwritten
          exact iff_of_true (mapConsistent_of_succeeding hrefused hwritten) (by simp)
      | false =>
          rw [hsucceeds] at hrefused hwritten
          rw [mapConsistent_iff_of_failing hmatch hrefused hwritten]
          simp

/-- As long as every map was consistent the names match, and the maps were consistent just if they
kept what they had to keep. -/
def MapsJudged (config : MasterConfig) : Prop :=
  ((∀ visit ∈ config.history, MapConsistent visit) → config.state.NamesMatch) ∧
    ((∀ visit ∈ config.history, MapConsistent visit) ↔ ∀ visit ∈ config.history, KeepsMap visit)

theorem MapsJudged.advance {config : MasterConfig} (hjudged : MapsJudged config)
    (action : MasterAction) : MapsJudged (machine.advance config action) := by
  obtain ⟨hmatch, hiff⟩ := hjudged
  rw [MapsJudged, machine.advance_history, List.forall_mem_cons, List.forall_mem_cons, ← hiff]
  refine ⟨fun hall => (mapConsistent_iff.mp hall.1).1, and_congr_left fun hall => ?_⟩
  exact mapConsistent_visit_iff (hmatch hall) action

/-- **The joint map stays consistent** in a run just if every map that passes its checks and fails
after them names the joints and the force sensor that the master names already. -/
theorem joint_map_consistent_iff (policy : MotionPolicy) (actions : List MasterAction) :
    (∀ visit ∈ (machine.exec (Config.start { policy := policy }) actions).history,
        MapConsistent visit) ↔
      ∀ visit ∈ (machine.exec (Config.start { policy := policy }) actions).history,
        KeepsMap visit := by
  have hstart : MapsJudged (Config.start { policy := policy }) := by
    refine ⟨fun _ => rfl, iff_of_true ?_ ?_⟩ <;>
      exact fun visit hmem => absurd hmem List.not_mem_nil
  have hend := machine.exec_invariant (fun _ action hjudged => hjudged.advance action) actions hstart
  exact hend.2

/-- A second map is refused by a servo that is already initialised, and renames the joint. -/
theorem joint_map_renamed_by_refused_map :
    ¬ ∀ visit ∈ (machine.exec (Config.start { policy := .supervisedMotion })
        [.call (.mapJoints singleAxisBus {} [nh17Axis] []),
          .call (.mapJoints singleAxisBus {} [{ nh17Axis with jointName := "joint2" }] [])]).history,
      MapConsistent visit := by
  intro hall
  have hlast := (hall _ List.mem_cons_self).kept
  revert hlast
  decide +kernel

end Master

end IghMaster
