import IghMaster.SeqLock

/-!
# Reads under the sequence lock

The sequence number counts the stores of the writer, so that it is even just outside a write, where the
contents are published. An iteration of a reader that starts at a count has read the contents of that
count as long as the count is the same; when the number is found unchanged at the end, the count is, as
long as the number has not gone round.
-/

namespace IghMaster

open Transition Transition.Machine

namespace SeqLockWriter

/-- One store of the write that is under way. -/
def inside : SeqLockWriter → Nat
  | idle => 0
  | beginning _ => 0
  | writing => 1
  | ending _ => 1

theorem inside_le_one (writer : SeqLockWriter) : writer.inside ≤ 1 := by
  cases writer with
  | idle => exact Nat.zero_le 1
  | beginning loaded => exact Nat.zero_le 1
  | writing => exact Nat.le_refl 1
  | ending loaded => exact Nat.le_refl 1

end SeqLockWriter

namespace SeqLockState

variable {Reader Call Field : Type} {Value : Field → Type} {fields : Call → List Field}
  {published : (∀ field, Value field) → Prop} {contents : ∀ field, Value field}
  {writes during inside : Nat} {phase : SeqLockReader Call Field Value}

/-! ### What a reader knows -/

/-- What a reader has read came from the contents at the load of its start value, and from published ones
once it has left its loop. -/
def ReaderKnows (fields : Call → List Field) (published : (∀ field, Value field) → Prop)
    (contents : ∀ field, Value field) (inside writes during : Nat) :
    SeqLockReader Call Field Value → Prop
  | .idle => True
  | .beginning _ => True
  | .reading call start rest seen =>
      seen.map Sigma.fst ++ rest = fields call ∧ during ≤ writes ∧
        start = 2 * (writes - during) % 2 ^ 64 ∧
          (during = 0 → inside = 0 → ∀ sample ∈ seen, sample.2 = contents sample.1)
  | .returned call seen =>
      seen.map Sigma.fst = fields call ∧
        ∃ snapshot, published snapshot ∧ ∀ sample ∈ seen, sample.2 = snapshot sample.1

/-- What the writer does leaves a reader right: it changes nothing that is read, or the number. -/
theorem ReaderKnows.of_writer
    (hknows : ReaderKnows fields published contents inside writes during phase)
    {published' : (∀ field, Value field) → Prop} {contents' : ∀ field, Value field}
    {inside' : Nat} (hpublished : ∀ snapshot, published snapshot → published' snapshot) (more : Nat)
    (hsame : more = 0 → inside' = 0 → inside = 0 ∧ contents' = contents) :
    ReaderKnows fields published' contents' inside' (writes + more) (during + more) phase := by
  cases phase with
  | idle => trivial
  | beginning call => trivial
  | reading call start rest seen =>
      obtain ⟨hfields, hduring, hstart, hseen⟩ := hknows
      refine ⟨hfields, Nat.add_le_add_right hduring more, ?_, fun hcurrent hinside' => ?_⟩
      · rw [Nat.add_sub_add_right]
        exact hstart
      · obtain ⟨hinside, hcontents⟩ := hsame (by omega) hinside'
        rw [hcontents]
        exact hseen (by omega) hinside
  | returned call seen =>
      obtain ⟨hfields, snapshot, hsnapshot, hseen⟩ := hknows
      exact ⟨hfields, snapshot, hpublished snapshot hsnapshot, hseen⟩

theorem ReaderKnows.read_field {call : Call} {start : Nat} {field : Field} {rest : List Field}
    {seen : List (Sigma Value)}
    (hknows : ReaderKnows fields published contents inside writes during
      (.reading call start (field :: rest) seen)) :
    ReaderKnows fields published contents inside writes during
      (.reading call start rest (seen ++ [⟨field, contents field⟩])) := by
  obtain ⟨hfields, hduring, hstart, hseen⟩ := hknows
  refine ⟨?_, hduring, hstart, fun hcurrent hinside sample hsample => ?_⟩
  · rw [List.map_append, List.append_assoc]
    exact hfields
  · rcases List.mem_append.mp hsample with hearlier | hlast
    · exact hseen hcurrent hinside sample hearlier
    · rw [List.mem_singleton.mp hlast]

/-! ### The lock after some writes -/

/-- The state after so many completed writes, of which each reader missed some during its iteration. -/
structure Holds (fields : Call → List Field) (published : (∀ field, Value field) → Prop)
    (writes : Nat) (during : Reader → Nat) (state : SeqLockState Reader Call Field Value) : Prop where
  seq_eq : state.seq = (2 * writes + state.writer.inside) % 2 ^ 64
  beginning_eq : ∀ loaded, state.writer = .beginning loaded → loaded = state.seq
  ending_eq : ∀ loaded, state.writer = .ending loaded → loaded = state.seq
  contents_published : state.writer.inside = 0 → published state.contents
  reader_knows : ∀ reader, ReaderKnows fields published state.contents state.writer.inside writes
    (during reader) (state.readers reader)

variable {during : Reader → Nat} {state : SeqLockState Reader Call Field Value}

theorem holds_start (fields : Call → List Field) (initial : ∀ field, Value field)
    (hpublished : published initial) (during : Reader → Nat) :
    Holds fields published 0 during { contents := initial } where
  seq_eq := rfl
  beginning_eq _ h := SeqLockWriter.noConfusion h
  ending_eq _ h := SeqLockWriter.noConfusion h
  contents_published _ := hpublished
  reader_knows _ := trivial

theorem Holds.mono (hholds : Holds fields published writes during state)
    {published' : (∀ field, Value field) → Prop}
    (hpublished : ∀ snapshot, published snapshot → published' snapshot) :
    Holds fields published' writes during state where
  seq_eq := hholds.seq_eq
  beginning_eq := hholds.beginning_eq
  ending_eq := hholds.ending_eq
  contents_published hinside := hpublished _ (hholds.contents_published hinside)
  reader_knows reader := (hholds.reader_knows reader).of_writer hpublished 0 fun _ h => ⟨h, rfl⟩

theorem Holds.loadBegin (hholds : Holds fields published writes during state) :
    Holds fields published writes during state.loadBegin := by
  unfold SeqLockState.loadBegin
  cases hwriter : state.writer with
  | idle =>
      have hinside : state.writer.inside = 0 := by rw [hwriter]; rfl
      refine ⟨?_, fun loaded h => ?_, fun loaded h => SeqLockWriter.noConfusion h, fun _ => ?_,
        fun reader => ?_⟩
      · rw [hholds.seq_eq, hinside]
        rfl
      · exact (SeqLockWriter.beginning.inj h).symm
      · exact hholds.contents_published hinside
      · exact (hholds.reader_knows reader).of_writer (fun _ h => h) 0 fun _ _ => ⟨hinside, rfl⟩
  | beginning loaded => exact hholds
  | writing => exact hholds
  | ending loaded => exact hholds

theorem Holds.storeBegin (hholds : Holds fields published writes during state) :
    Holds fields published writes during state.storeBegin := by
  unfold SeqLockState.storeBegin
  cases hwriter : state.writer with
  | idle => exact hholds
  | beginning loaded =>
      refine ⟨?_, fun _ h => SeqLockWriter.noConfusion h, fun _ h => SeqLockWriter.noConfusion h,
        fun h => absurd h Nat.one_ne_zero, fun reader => ?_⟩
      · have hseq := hholds.seq_eq
        rw [hwriter] at hseq
        rw [hholds.beginning_eq loaded hwriter, hseq]
        change (2 * writes % 2 ^ 64 + 1) % 2 ^ 64 = (2 * writes + 1) % 2 ^ 64
        omega
      · exact (hholds.reader_knows reader).of_writer (fun _ h => h) 0
          fun _ h => absurd h Nat.one_ne_zero
  | writing => exact hholds
  | ending loaded => exact hholds

theorem Holds.storeField [DecidableEq Field] (hholds : Holds fields published writes during state)
    (field : Field) (value : Value field) :
    Holds fields published writes during (state.storeField field value) := by
  unfold SeqLockState.storeField
  cases hwriter : state.writer with
  | idle => exact hholds
  | beginning loaded => exact hholds
  | writing =>
      refine ⟨?_, fun loaded h => SeqLockWriter.noConfusion h, fun loaded h =>
        SeqLockWriter.noConfusion h, fun h => absurd h Nat.one_ne_zero, fun reader => ?_⟩
      · rw [hholds.seq_eq, hwriter]
      · exact (hholds.reader_knows reader).of_writer (fun _ h => h) 0
          fun _ h => absurd h Nat.one_ne_zero
  | ending loaded => exact hholds

theorem Holds.loadEnd (hholds : Holds fields published writes during state) :
    Holds fields published writes during state.loadEnd := by
  unfold SeqLockState.loadEnd
  cases hwriter : state.writer with
  | idle => exact hholds
  | beginning loaded => exact hholds
  | writing =>
      refine ⟨?_, fun loaded h => SeqLockWriter.noConfusion h, fun loaded h => ?_,
        fun h => absurd h Nat.one_ne_zero, fun reader => ?_⟩
      · rw [hholds.seq_eq, hwriter]
        rfl
      · exact (SeqLockWriter.ending.inj h).symm
      · exact (hholds.reader_knows reader).of_writer (fun _ h => h) 0
          fun _ h => absurd h Nat.one_ne_zero
  | ending loaded => exact hholds

/-- The store that completes a write publishes the contents, and every reader misses one more write. -/
theorem Holds.storeEnd (hholds : Holds fields published writes during state)
    {loaded : Nat} (hwriter : state.writer = .ending loaded)
    {published' : (∀ field, Value field) → Prop}
    (hpublished : ∀ snapshot, published snapshot → published' snapshot)
    (hcontents : published' state.contents) :
    Holds fields published' (writes + 1) (fun reader => during reader + 1) state.storeEnd := by
  unfold SeqLockState.storeEnd
  rw [hwriter]
  refine ⟨?_, fun _ h => SeqLockWriter.noConfusion h, fun _ h => SeqLockWriter.noConfusion h,
    fun _ => hcontents, fun reader => ?_⟩
  · have hseq := hholds.seq_eq
    rw [hwriter] at hseq
    dsimp only
    rw [hholds.ending_eq loaded hwriter, hseq]
    change ((2 * writes + 1) % 2 ^ 64 + 1) % 2 ^ 64 = 2 * (writes + 1) % 2 ^ 64
    omega
  · exact (hholds.reader_knows reader).of_writer hpublished 1 fun h => absurd h Nat.one_ne_zero

/-! ### Steps of the readers -/

/-- An even number is that of the writes completed so far, none being under way. -/
theorem Holds.begin_reading (hholds : Holds fields published writes during state) (call : Call)
    (heven : ¬ state.seq % 2 = 1) :
    ReaderKnows fields published state.contents state.writer.inside writes 0
      (.reading call state.seq (fields call) []) := by
  refine ⟨rfl, Nat.zero_le writes, ?_, fun _ _ sample hsample => absurd hsample List.not_mem_nil⟩
  have hseq := hholds.seq_eq
  have hinside := state.writer.inside_le_one
  omega

/-- A number that is found unchanged is that of the published contents the iteration began with. -/
theorem Holds.return_seen (hholds : Holds fields published writes during state) {missed : Nat}
    (hmissed : missed < 2 ^ 63) {call : Call} {seen : List (Sigma Value)}
    (hknows : ReaderKnows fields published state.contents state.writer.inside writes missed
      (.reading call state.seq [] seen)) :
    ReaderKnows fields published state.contents state.writer.inside writes missed
      (.returned call seen) := by
  obtain ⟨hfields, hduring, hstart, hseen⟩ := hknows
  have hseq := hholds.seq_eq
  have hinside := state.writer.inside_le_one
  have hcurrent : missed = 0 ∧ state.writer.inside = 0 := by omega
  rw [List.append_nil] at hfields
  exact ⟨hfields, state.contents, hholds.contents_published hcurrent.2,
    hseen hcurrent.1 hcurrent.2⟩

variable [DecidableEq Reader]

/-- A reader's access changes what that reader knows, and where it was counted from. -/
theorem Holds.setReader (hholds : Holds fields published writes during state) (reader : Reader)
    {during' : Reader → Nat} (hduring : ∀ other, other ≠ reader → during' other = during other)
    (hphase : ReaderKnows fields published state.contents state.writer.inside writes
      (during' reader) phase) :
    Holds fields published writes during' (state.setReader reader phase) where
  seq_eq := hholds.seq_eq
  beginning_eq := hholds.beginning_eq
  ending_eq := hholds.ending_eq
  contents_published := hholds.contents_published
  reader_knows other := by
    change ReaderKnows _ _ _ _ _ _ (Function.update state.readers reader phase other)
    by_cases hother : other = reader
    · rw [hother, Function.update_self]
      exact hphase
    · rw [Function.update_of_ne hother, hduring other hother]
      exact hholds.reader_knows other

theorem Holds.callReader (hholds : Holds fields published writes during state) (reader : Reader)
    (call : Call) : Holds fields published writes during (state.callReader reader call) := by
  unfold SeqLockState.callReader
  cases state.readers reader with
  | idle => exact hholds.setReader reader (fun _ _ => rfl) trivial
  | beginning earlier => exact hholds
  | reading earlier start rest seen => exact hholds
  | returned earlier seen => exact hholds.setReader reader (fun _ _ => rfl) trivial

/-- The load of `readBegin`: from here on the writes are counted afresh for this reader. -/
theorem Holds.read_beginning (hholds : Holds fields published writes during state) {reader : Reader}
    {call : Call} (hreader : state.readers reader = .beginning call) {during' : Reader → Nat}
    (hduring : ∀ other, other ≠ reader → during' other = during other) (hfresh : during' reader = 0) :
    Holds fields published writes during' (state.read fields reader) := by
  unfold SeqLockState.read
  rw [hreader]
  dsimp only
  split
  · have hsame : state.setReader reader (.beginning call) = state := by
      unfold SeqLockState.setReader
      rw [← hreader, Function.update_eq_self]
    rw [← hsame]
    exact hholds.setReader reader hduring trivial
  · rename_i heven
    refine hholds.setReader reader hduring ?_
    rw [hfresh]
    exact hholds.begin_reading call heven

/-- Any other access of a reader. -/
theorem Holds.read_on (hholds : Holds fields published writes during state) {reader : Reader}
    (hreader : ∀ call, state.readers reader ≠ .beginning call)
    (hduring : ∀ call start seen, state.readers reader = .reading call start [] seen →
      during reader < 2 ^ 63) :
    Holds fields published writes during (state.read fields reader) := by
  have hknows := hholds.reader_knows reader
  unfold SeqLockState.read
  cases hphase : state.readers reader with
  | idle => exact hholds
  | beginning call => exact absurd hphase (hreader call)
  | reading call start rest seen =>
      rw [hphase] at hknows
      cases rest with
      | nil =>
          dsimp only
          split
          · exact hholds.setReader reader (fun _ _ => rfl) trivial
          · rename_i hsame
            rw [← not_not.mp hsame] at hknows
            exact hholds.setReader reader (fun _ _ => rfl)
              (hholds.return_seen (hduring call start seen hphase) hknows)
      | cons field rest =>
          exact hholds.setReader reader (fun _ _ => rfl) hknows.read_field
  | returned call seen => exact hholds

/-! ### Runs -/

section

variable {initial : ∀ field, Value field} {history : List (SeqLockVisit Reader Call Field Value)}

omit [DecidableEq Reader] in
theorem Published.cons {snapshot : ∀ field, Value field}
    (hpublished : Published initial history snapshot)
    (visit : SeqLockVisit Reader Call Field Value) :
    Published initial (visit :: history) snapshot := by
  rcases hpublished with hinitial | ⟨earlier, hmem, hcompletes, hcontents⟩
  · exact Or.inl hinitial
  · exact Or.inr ⟨earlier, List.mem_cons_of_mem visit hmem, hcompletes, hcontents⟩

omit [DecidableEq Reader] in
theorem completedWrites_cons (visit : SeqLockVisit Reader Call Field Value)
    (history : List (SeqLockVisit Reader Call Field Value)) :
    completedWrites (visit :: history) =
      completedWrites history + if completesWrite visit then 1 else 0 := List.countP_cons

theorem writesDuring_of_not_loadsStart {reader : Reader}
    {visit : SeqLockVisit Reader Call Field Value} (hstart : loadsStart reader visit = false) :
    writesDuring reader (visit :: history) =
      writesDuring reader history + if completesWrite visit then 1 else 0 := by
  rw [writesDuring, hstart, if_neg Bool.false_ne_true]

end

variable [DecidableEq Field] {initial : ∀ field, Value field}
  {config : SeqLockConfig Reader Call Field Value}

/-- The lock is in order after the run that led here. -/
def InOrder (fields : Call → List Field) (initial : ∀ field, Value field)
    (config : SeqLockConfig Reader Call Field Value) : Prop :=
  Holds fields (Published initial config.history) (completedWrites config.history)
    (fun reader => writesDuring reader config.history) config.state

/-- An action that completes no write and begins no iteration. -/
theorem inOrder_of_quiet {action : SeqLockAction Reader Call Field Value}
    (hcompletes : completesWrite ((machine fields).visit config.state action) = false)
    (hstarts : ∀ reader, loadsStart reader ((machine fields).visit config.state action) = false)
    (hafter : Holds fields (Published initial config.history) (completedWrites config.history)
      (fun reader => writesDuring reader config.history) (config.state.next fields action)) :
    InOrder fields initial ((machine fields).advance config action) := by
  have hwrites : completedWrites ((machine fields).advance config action).history =
      completedWrites config.history := by
    rw [advance_history, completedWrites_cons, hcompletes]
    rfl
  have hduring : (fun reader => writesDuring reader ((machine fields).advance config action).history) =
      fun reader => writesDuring reader config.history := by
    funext reader
    rw [advance_history, writesDuring_of_not_loadsStart (hstarts reader), hcompletes]
    rfl
  unfold InOrder
  rw [hwrites, hduring]
  exact hafter.mono fun _ h => h.cons _

/-- Outside the last access of `writeEnd` there is nothing to complete. -/
theorem storeEnd_of_not_ending (fields : Call → List Field)
    (hwriter : ∀ loaded, state.writer ≠ .ending loaded) :
    state.storeEnd = state ∧ completesWrite ((machine fields).visit state .storeEnd) = false := by
  unfold SeqLockState.storeEnd completesWrite
  rw [visit_action, visit_before]
  cases hphase : state.writer with
  | idle => exact ⟨rfl, rfl⟩
  | beginning loaded => exact ⟨rfl, rfl⟩
  | writing => exact ⟨rfl, rfl⟩
  | ending loaded => exact absurd hphase (hwriter loaded)

theorem completesWrite_storeEnd (fields : Call → List Field) {loaded : Nat}
    (hwriter : state.writer = .ending loaded) :
    completesWrite ((machine fields).visit state .storeEnd) = true := by
  unfold completesWrite
  rw [visit_action, visit_before, hwriter]

theorem InOrder.storeEnd (horder : InOrder fields initial config) :
    InOrder fields initial ((machine fields).advance config .storeEnd) := by
  by_cases hending : ∃ loaded, config.state.writer = .ending loaded
  · obtain ⟨loaded, hwriter⟩ := hending
    have hcompletes := completesWrite_storeEnd fields hwriter
    have hwrites : completedWrites ((machine fields).advance config .storeEnd).history =
        completedWrites config.history + 1 := by
      rw [advance_history, completedWrites_cons, hcompletes, if_pos rfl]
    have hduring :
        (fun reader => writesDuring reader ((machine fields).advance config .storeEnd).history) =
          fun reader => writesDuring reader config.history + 1 := by
      funext reader
      rw [advance_history, writesDuring_of_not_loadsStart rfl, hcompletes, if_pos rfl]
    have hcontents : config.state.storeEnd.contents = config.state.contents := by
      unfold SeqLockState.storeEnd
      rw [hwriter]
    unfold InOrder
    rw [hwrites, hduring]
    refine Holds.storeEnd horder hwriter (fun _ h => h.cons _) ?_
    exact Or.inr ⟨_, List.mem_cons_self, hcompletes, hcontents⟩
  · obtain ⟨hsame, hcompletes⟩ := storeEnd_of_not_ending fields fun loaded h => hending ⟨loaded, h⟩
    refine inOrder_of_quiet hcompletes (fun _ => rfl) ?_
    change Holds _ _ _ _ config.state.storeEnd
    rw [hsame]
    exact horder

theorem InOrder.read (horder : InOrder fields initial config) {reader : Reader}
    (hkeeps : KeepsUp config (.read reader)) :
    InOrder fields initial ((machine fields).advance config (.read reader)) := by
  by_cases hbeginning : ∃ call, config.state.readers reader = .beginning call
  · obtain ⟨call, hreader⟩ := hbeginning
    have hwrites : completedWrites ((machine fields).advance config (.read reader)).history =
        completedWrites config.history := by
      rw [advance_history, completedWrites_cons]
      rfl
    unfold InOrder
    rw [hwrites]
    refine (Holds.mono horder fun _ h => h.cons _).read_beginning hreader (fun other hother => ?_) ?_
    · have hstart : loadsStart other ((machine fields).visit config.state (.read reader)) = false := by
        unfold loadsStart
        rw [visit_action, visit_before]
        cases config.state.readers other with
        | beginning call => exact decide_eq_false (Ne.symm hother)
        | idle => rfl
        | reading call start rest seen => rfl
        | returned call seen => rfl
      rw [advance_history, writesDuring_of_not_loadsStart hstart]
      rfl
    · have hstart : loadsStart reader ((machine fields).visit config.state (.read reader)) = true := by
        unfold loadsStart
        rw [visit_action, visit_before, hreader]
        exact decide_eq_true rfl
      rw [advance_history, writesDuring, hstart, if_pos rfl]
  · refine inOrder_of_quiet rfl (fun other => ?_) ?_
    · unfold loadsStart
      rw [visit_action, visit_before]
      cases hphase : config.state.readers other with
      | beginning call =>
          refine decide_eq_false fun hsame => hbeginning ⟨call, ?_⟩
          rw [hsame]
          exact hphase
      | idle => rfl
      | reading call start rest seen => rfl
      | returned call seen => rfl
    · exact Holds.read_on horder (fun call h => hbeginning ⟨call, h⟩)
        fun call start seen h => hkeeps reader call start seen rfl h

theorem InOrder.advance (horder : InOrder fields initial config)
    {action : SeqLockAction Reader Call Field Value} (hkeeps : KeepsUp config action) :
    InOrder fields initial ((machine fields).advance config action) := by
  cases action with
  | loadBegin => exact inOrder_of_quiet rfl (fun _ => rfl) (Holds.loadBegin horder)
  | storeBegin => exact inOrder_of_quiet rfl (fun _ => rfl) (Holds.storeBegin horder)
  | storeField field value =>
      exact inOrder_of_quiet rfl (fun _ => rfl) (Holds.storeField horder field value)
  | loadEnd => exact inOrder_of_quiet rfl (fun _ => rfl) (Holds.loadEnd horder)
  | storeEnd => exact horder.storeEnd
  | call reader call => exact inOrder_of_quiet rfl (fun _ => rfl) (Holds.callReader horder reader call)
  | read reader => exact horder.read hkeeps

/-- No reader leaves its loop with a torn snapshot as long as the sequence number does not go round in one
of its iterations. -/
theorem untorn_of_keepsUp (fields : Call → List Field) (initial : ∀ field, Value field)
    (actions : List (SeqLockAction Reader Call Field Value))
    (hkeeps : (machine fields).Meets KeepsUp (.start { contents := initial }) actions) :
    Untorn fields initial ((machine fields).exec (.start { contents := initial }) actions) := by
  have hstep : ∀ (config : SeqLockConfig Reader Call Field Value)
      (action : SeqLockAction Reader Call Field Value), InOrder fields initial config →
        KeepsUp config action → InOrder fields initial ((machine fields).advance config action) :=
    fun config action horder hnow => horder.advance hnow
  have hstart : InOrder fields initial
      (.start { contents := initial } : SeqLockConfig Reader Call Field Value) :=
    holds_start fields initial (Or.inl rfl) _
  have horder := (machine fields).exec_invariant_of_meets hstep hstart hkeeps
  intro reader call seen hreturned
  have hknows := Holds.reader_knows horder reader
  rw [hreturned] at hknows
  exact hknows

/-! ### Counting the writes of a run -/

omit [DecidableEq Field] in
theorem writesDuring_le (reader : Reader) (history : List (SeqLockVisit Reader Call Field Value)) :
    writesDuring reader history ≤ completedWrites history := by
  induction history with
  | nil => exact Nat.le_refl 0
  | cons visit earlier ih =>
      rw [writesDuring, completedWrites_cons]
      split
      · exact Nat.zero_le _
      · exact Nat.add_le_add_right ih _

theorem completedWrites_le_exec (fields : Call → List Field)
    (config : SeqLockConfig Reader Call Field Value)
    (actions : List (SeqLockAction Reader Call Field Value)) :
    completedWrites config.history ≤
      completedWrites ((machine fields).exec config actions).history := by
  induction actions generalizing config with
  | nil => exact Nat.le_refl _
  | cons action actions ih =>
      refine Nat.le_trans ?_ (ih ((machine fields).advance config action))
      rw [advance_history, completedWrites_cons]
      exact Nat.le_add_right _ _

/-- In a run with fewer than `2 ^ 63` writes every reader keeps up. -/
theorem meets_keepsUp (fields : Call → List Field) (config : SeqLockConfig Reader Call Field Value)
    (actions : List (SeqLockAction Reader Call Field Value))
    (hwrites : completedWrites ((machine fields).exec config actions).history < 2 ^ 63) :
    (machine fields).Meets KeepsUp config actions := by
  induction actions generalizing config with
  | nil => trivial
  | cons action actions ih =>
      refine ⟨fun reader call start seen _ _ => ?_, ih _ hwrites⟩
      calc writesDuring reader config.history
          ≤ completedWrites config.history := writesDuring_le reader config.history
        _ ≤ completedWrites ((machine fields).exec config (action :: actions)).history :=
            completedWrites_le_exec fields config (action :: actions)
        _ < 2 ^ 63 := hwrites

end SeqLockState

namespace PdoCache

open SeqLockState

variable {Reader : Type} [DecidableEq Reader]

/-- What a call reads from the cached process data is of one completed write, as long as fewer than
`2 ^ 63` writes complete during one iteration of its loop. -/
theorem untorn_run (initial : ∀ field, PdoCacheField.Value field)
    (actions : List (SeqLockAction Reader PdoCacheRead PdoCacheField PdoCacheField.Value))
    (hkeeps : machine.Meets KeepsUp (.start { contents := initial }) actions) :
    Untorn PdoCacheRead.fields initial (exec initial actions) :=
  untorn_of_keepsUp PdoCacheRead.fields initial actions hkeeps

/-! ### A sequence number that goes round -/

abbrev Action := SeqLockAction Unit PdoCacheRead PdoCacheField PdoCacheField.Value

/-- A reader is overtaken by a write of the position, and starts over. -/
def overtaken : List Action :=
  [.call () (.seqlockReadIndex .lastActualPositions 1 0), .read (), .loadBegin, .storeBegin,
    .storeField (.lastActualPosition 0) (7 : Int32), .read (), .loadEnd, .storeEnd, .read (),
    .read (), .read (), .read ()]

theorem untorn_overtaken :
    (exec cleared overtaken).state.readers () =
        .returned (.seqlockReadIndex .lastActualPositions 1 0)
          [⟨.lastActualPosition 0, (7 : Int32)⟩] ∧
      Untorn PdoCacheRead.fields cleared (exec cleared overtaken) :=
  ⟨rfl, untorn_run cleared overtaken
    (meets_keepsUp PdoCacheRead.fields (.start { contents := cleared }) overtaken (by decide))⟩

def emptyWrite : List Action := [.loadBegin, .storeBegin, .loadEnd, .storeEnd]

def emptyWrites : Nat → List Action
  | 0 => []
  | count + 1 => emptyWrite ++ emptyWrites count

abbrev Config := SeqLockConfig Unit PdoCacheRead PdoCacheField PdoCacheField.Value

/-- An empty write moves the sequence number on, and publishes the contents once more. -/
theorem exec_emptyWrite {config : Config} (hwriter : config.state.writer = .idle) :
    (machine.exec config emptyWrite).state =
        { config.state with seq := (config.state.seq + 2) % 2 ^ 64 } ∧
      ∃ visit, (machine.exec config emptyWrite).history.filter completesWrite =
          visit :: config.history.filter completesWrite ∧
        visit.after.contents = config.state.contents := by
  obtain ⟨⟨seq, contents, writer, readers⟩, history⟩ := config
  dsimp only at hwriter
  subst hwriter
  have hseq : ((seq + 1) % 2 ^ 64 + 1) % 2 ^ 64 = (seq + 2) % 2 ^ 64 := by omega
  refine ⟨?_, _, rfl, rfl⟩
  rw [← hseq]
  rfl

theorem exec_emptyWrites (count : Nat) {config : Config} (hwriter : config.state.writer = .idle)
    (hseq : config.state.seq < 2 ^ 64) :
    (machine.exec config (emptyWrites count)).state =
        { config.state with seq := (config.state.seq + 2 * count) % 2 ^ 64 } ∧
      ∃ later, (machine.exec config (emptyWrites count)).history.filter completesWrite =
          later ++ config.history.filter completesWrite ∧
        later.length = count ∧ ∀ visit ∈ later, visit.after.contents = config.state.contents := by
  induction count generalizing config with
  | zero =>
      refine ⟨?_, [], rfl, rfl, fun visit hmem => absurd hmem List.not_mem_nil⟩
      rw [Nat.mul_zero, Nat.add_zero, Nat.mod_eq_of_lt hseq]
      rfl
  | succ count ih =>
      obtain ⟨hstate, visit, hfilter, hvisit⟩ := exec_emptyWrite hwriter
      have hwriter' : (machine.exec config emptyWrite).state.writer = .idle := by
        rw [hstate]
        exact hwriter
      have hseq' : (machine.exec config emptyWrite).state.seq < 2 ^ 64 := by
        rw [hstate]
        exact Nat.mod_lt _ (by decide)
      obtain ⟨hafter, later, hlater, hlength, hcontents⟩ := ih hwriter' hseq'
      rw [emptyWrites, machine.exec_append]
      refine ⟨?_, later ++ [visit], ?_, ?_, fun other hmem => ?_⟩
      · rw [hafter, hstate]
        have hsum : ((config.state.seq + 2) % 2 ^ 64 + 2 * count) % 2 ^ 64 =
            (config.state.seq + 2 * (count + 1)) % 2 ^ 64 := by omega
        dsimp only
        rw [hsum]
      · rw [hlater, hfilter, List.append_assoc, List.singleton_append]
      · rw [List.length_append, hlength, List.length_singleton]
      · rcases List.mem_append.mp hmem with hlate | hlast
        · rw [hcontents other hlate, hstate]
        · rw [List.mem_singleton.mp hlast, hvisit]

/-- Reads complete nothing. -/
theorem filter_history_reads (count : Nat) (config : Config) :
    (machine.exec config (List.replicate count (.read ()))).history.filter completesWrite =
      config.history.filter completesWrite := by
  induction count generalizing config with
  | zero => rfl
  | succ count ih =>
      rw [List.replicate_succ, machine.exec_cons, ih]
      rfl

/-- `getMotorStates` has read the status word of one axis before the first write. -/
def beforeGoingRound : List Action :=
  [.call () (.getMotorStates 1 1), .read (), .read (), .loadBegin, .storeBegin,
    .storeField (.lastStatusWord 0) (1 : UInt16), .storeField (.lastActualPosition 0) (1 : Int32),
    .loadEnd, .storeEnd]

/-- The rest is read after so many more writes. -/
def goesRound (count : Nat) : List Action :=
  beforeGoingRound ++ (emptyWrites count ++ List.replicate 8 (.read ()))

/-- Once the sequence number is `0` again, the reader takes the fields for those of one write. -/
theorem exec_goesRound {count : Nat} (hcount : (2 + 2 * count) % 2 ^ 64 = 0) :
    completedWrites (exec cleared (goesRound count)).history = count + 1 ∧
      (exec cleared (goesRound count)).state.readers () =
        .returned (.getMotorStates 1 1)
          [⟨.lastStatusWord 0, (0 : UInt16)⟩, ⟨.lastOperationModeDisplay 0, (0 : Int8)⟩,
            ⟨.lastActualPosition 0, (1 : Int32)⟩, ⟨.lastActualVelocity 0, (0 : Int32)⟩,
            ⟨.lastActualTorque 0, (0 : Int16)⟩, ⟨.lastSensorForce2020 0, (0 : Int32)⟩,
            ⟨.lastMotorEncoder2021 0, (0 : Int32)⟩, ⟨.lastErrorCode 0, (0 : UInt16)⟩] ∧
        ∀ visit ∈ (exec cleared (goesRound count)).history, completesWrite visit = true →
          visit.after.contents (.lastStatusWord 0) = (1 : UInt16) := by
  obtain ⟨first, hfirst⟩ : ∃ first : Config, first = exec cleared beforeGoingRound := ⟨_, rfl⟩
  have hwriter : first.state.writer = .idle := by rw [hfirst]; rfl
  have hseq : first.state.seq = 2 := by rw [hfirst]; rfl
  obtain ⟨visit, hvisit, hcontents⟩ : ∃ visit, first.history.filter completesWrite = [visit] ∧
      visit.after.contents (.lastStatusWord 0) = (1 : UInt16) := by
    rw [hfirst]
    exact ⟨_, rfl, rfl⟩
  have hset : first.state.contents (.lastStatusWord 0) = (1 : UInt16) := by rw [hfirst]; rfl
  obtain ⟨hround, later, hlater, hlength, hsame⟩ :=
    exec_emptyWrites count hwriter (by rw [hseq]; decide)
  have hexec : exec cleared (goesRound count) =
      machine.exec (machine.exec first (emptyWrites count)) (List.replicate 8 (.read ())) := by
    rw [hfirst]
    unfold exec goesRound
    rw [machine.exec_append, machine.exec_append]
  have hfilter :
      (exec cleared (goesRound count)).history.filter completesWrite = later ++ [visit] := by
    rw [hexec, filter_history_reads, hlater, hvisit]
  have hstate : (exec cleared (goesRound count)).state =
      machine.run { first.state with seq := 0 } (List.replicate 8 (.read ())) := by
    rw [hexec, machine.state_exec, hround, hseq, hcount]
  refine ⟨?_, ?_, fun write hmem hcompletes => ?_⟩
  · rw [completedWrites, List.countP_eq_length_filter, hfilter, List.length_append, hlength,
      List.length_singleton]
  · rw [hstate, hfirst]
    rfl
  · have hin : write ∈ later ++ [visit] := by
      rw [← hfilter]
      exact List.mem_filter.mpr ⟨hmem, hcompletes⟩
    rcases List.mem_append.mp hin with hlate | hlast
    · rw [hsame write hlate, hset]
    · rw [List.mem_singleton.mp hlast, hcontents]

theorem not_untorn :
    ¬ ∀ (initial : ∀ field, PdoCacheField.Value field) (actions : List Action),
      completedWrites (exec initial actions).history < 2 ^ 64 →
        Untorn PdoCacheRead.fields initial (exec initial actions) := by
  intro hclaim
  obtain ⟨count, hcount⟩ : ∃ count : Nat, count = 2 ^ 63 - 1 := ⟨_, rfl⟩
  have hzero : (2 + 2 * count) % 2 ^ 64 = 0 := by omega
  obtain ⟨hwrites, hreader, hwritten⟩ := exec_goesRound hzero
  obtain ⟨-, snapshot, hpublished, hseen⟩ :=
    hclaim cleared (goesRound count) (by omega) () _ _ hreader
  have hstatus : (0 : UInt16) = snapshot (.lastStatusWord 0) :=
    hseen ⟨.lastStatusWord 0, (0 : UInt16)⟩ (by simp)
  have hposition : (1 : Int32) = snapshot (.lastActualPosition 0) :=
    hseen ⟨.lastActualPosition 0, (1 : Int32)⟩ (by simp)
  rcases hpublished with hinitial | ⟨write, hmem, hcompletes, hwrite⟩
  · rw [hinitial] at hposition
    exact absurd hposition (show (1 : Int32) ≠ 0 by decide)
  · rw [← hwrite, hwritten write hmem hcompletes] at hstatus
    exact absurd hstatus (by decide)

end PdoCache

end IghMaster
