import Storlets.Agent.Daemon
import Storlets.Agent.Shutdown

set_option autoImplicit false

/-!
# How the agent's servers end

Both leave `main_loop` through their own `_terminate`.
-/

namespace Storlets.Sbus

open PyStr Runs

section Daemon

variable (interpreter : Interpreter) (poolSize : Int)

/-- The messages decode and their responses can be sent off; an EXECUTE that waits for a pool
without slots sends none. -/
def DaemonReturns (state : MainState DaemonState) :
    MainEvent DaemonAnswers (Nat → WaitAnswers) → Prop
  | .turn (.message raw _ reply) => state.Serves → ∃ dtg, receive interpreter raw = .ok dtg ∧
      (reply.raises = false ∨ (poolSize ≤ 0 ∧
        getHandler interpreter StorletDaemon dtg.command = .handler "execute".toList))
  | _ => True

/-- `_wait_all_child_processes` comes to an end. -/
theorem daemon_terminates (answers : Nat → WaitAnswers) (state : DaemonState) :
    ((daemonKind poolSize).terminate answers state).1 = true := by
  have ends := waitWhile_ends answers Int.one_pos (Nat.le_refl (waitRounds state))
  simp only [daemonKind, decide_eq_true_eq]
  omega

theorem execute_isSome (answers : DaemonAnswers) (state : DaemonState) :
    (execute poolSize answers state).isSome ↔ 0 < poolSize := by
  constructor
  · intro returns
    by_contra none
    -- the table is never shorter than a pool without slots
    have full : poolSize ≤ (waitWhile answers.wait poolSize (waitRounds state) state).tasks := by
      omega
    simp [execute, full] at returns
  · intro slots
    have ends := waitWhile_ends answers.wait slots (Nat.le_refl (waitRounds state))
    have room : ¬ poolSize ≤ (waitWhile answers.wait poolSize (waitRounds state) state).tasks := by
      omega
    simp only [execute, room, if_false]
    split_ifs <;> rfl

theorem daemon_handled {raw : RawMessage} {dtg : SBusDatagram}
    (decoded : receive interpreter raw = .ok dtg) (answers : DaemonAnswers) (state : DaemonState) :
    (handled interpreter (daemonKind poolSize) raw answers state).isSome ↔
      ¬ (poolSize ≤ 0 ∧
        getHandler interpreter StorletDaemon dtg.command = .handler "execute".toList) := by
  simp only [handled, decoded, daemonKind]
  cases getHandler interpreter StorletDaemon dtg.command with
  | valueError | typeError => simp
  | handler method =>
    by_cases executes : method = "execute".toList
    · simpa [handleDaemon, executes] using execute_isSome poolSize answers state
    · simp only [handleDaemon, executes, if_false, Lookup.handler.injEq, and_false, not_false_eq_true,
        iff_true]
      split_ifs <;> rfl

variable {interpreter poolSize}

theorem daemonReturns_iff (state : MainState DaemonState)
    (event : MainEvent DaemonAnswers (Nat → WaitAnswers)) :
    StepReturns interpreter (daemonKind poolSize) state event ↔
      DaemonReturns interpreter poolSize state event := by
  cases event with
  | sighup | exits => exact Iff.rfl
  | terminate answers =>
    exact iff_of_true (fun _ _ => daemon_terminates poolSize answers state.own) trivial
  | turn turn =>
    cases turn with
    | listenFails | timesOut | receiveFails => exact Iff.rfl
    | message raw answers reply =>
      refine imp_congr_right fun _ => ?_
      constructor
      · intro ⟨⟨dtg, decoded⟩, sends⟩
        refine ⟨dtg, decoded, ?_⟩
        rw [daemon_handled interpreter poolSize decoded] at sends
        tauto
      · intro ⟨dtg, decoded, sends⟩
        rw [daemon_handled interpreter poolSize decoded]
        exact ⟨⟨dtg, decoded⟩, by tauto⟩

theorem daemon_contract_iff (interpreter : Interpreter) (poolSize : Int)
    (events : List (MainEvent DaemonAnswers (Nat → WaitAnswers))) :
    Along (mainStep interpreter (daemonKind poolSize))
        (KeepsContract interpreter (daemonKind poolSize)) { own := {} } events ↔
      Along (mainStep interpreter (daemonKind poolSize)) (DaemonReturns interpreter poolSize)
        { own := {} } events := by
  have initial := sound_initial ({} : DaemonState)
  refine along_iff ?_ ?_ initial events
  · intro state event sound returns
    exact sound_step sound ((daemonReturns_iff state event).mpr returns)
  · intro state event sound
    exact (keepsContract_iff sound event).trans (daemonReturns_iff state event)

end Daemon

/-- `main_loop` ends as it should in exactly the runs whose messages decode and get their
responses closed and, for the factory, whose recorded daemons halt when asked to at the end. -/
theorem main_loop_ends_iff (interpreter : Interpreter) (containerId : Text) (poolSize : Int) :
    (∀ events, Along (mainStep interpreter (factoryKind containerId))
        (KeepsContract interpreter (factoryKind containerId)) { own := {} } events ↔
      Along (mainStep interpreter (factoryKind containerId)) (FactoryReturns interpreter)
        { own := {} } events) ∧
    ∀ events, Along (mainStep interpreter (daemonKind poolSize))
        (KeepsContract interpreter (daemonKind poolSize)) { own := {} } events ↔
      Along (mainStep interpreter (daemonKind poolSize)) (DaemonReturns interpreter poolSize)
        { own := {} } events :=
  ⟨factory_contract_iff interpreter containerId, daemon_contract_iff interpreter poolSize⟩

/-- What a client writes about descriptors of these types. -/
def metadataOf (fdtypes : List Text) : RawText :=
  let item (fdtype : Text) : Text :=
    "\x7b\"storlets\":\x7b\"type\":\"".toList ++ fdtype ++ "\"\x7d,\"storage\":0\x7d".toList
  .text ("[".toList ++ (",".toList).intercalate (fdtypes.map item) ++ "]".toList)

def startMessage : RawMessage :=
  ⟨[3], metadataOf ["SBUS_FD_SERVICE_OUT"],
    .text ("\x7b\"command\":\"SBUS_CMD_START_DAEMON\"".toList ++ ",\"params\":\x7b".toList ++
      "\"storlet_name\":\"s.S\"".toList ++ ",\"daemon_language\":\"python\"".toList ++
      ",\"storlet_path\":\"/s\"".toList ++ ",\"pool_size\":1".toList ++
      ",\"uds_path\":\"/p\"".toList ++ ",\"log_level\":\"DEBUG\"\x7d\x7d".toList)⟩

def factoryAnswers : FactoryAnswers :=
  { start :=
      { executable := fun _ => true, statusError := none, popenDaemon := true, popenLogger := true,
        exits := false, spawnedError := none, ping := fun _ => .replied true "OK" }
    statusError := none
    kill := fun _ => ⟨false, false⟩
    halt := ⟨fun _ _ => .sendError, fun _ => false⟩
    str := fun _ => "1" }

/-- A daemon is started and crashes; the factory is then told to shut down. -/
def crashed : List (MainEvent FactoryAnswers HaltAnswers) :=
  [.turn (.message startMessage factoryAnswers .written), .exits 0, .sighup, .turn .timesOut]

set_option maxRecDepth 20000 in
theorem crashed_raises :
    (after (mainStep python (factoryKind "c".toList)) { own := {} }
      (crashed ++ [.terminate factoryAnswers.halt])).ending = some .raises ∧
    ¬ Along (mainStep python (factoryKind "c".toList))
      (KeepsContract python (factoryKind "c".toList)) { own := {} }
      (crashed ++ [.terminate factoryAnswers.halt]) := by
  have raised : (after (mainStep python (factoryKind "c".toList)) { own := {} }
      (crashed ++ [.terminate factoryAnswers.halt])).ending = some .raises := by decide
  refine ⟨raised, fun along => ?_⟩
  have last := along.at_step crashed _ []
  rw [after_append] at raised
  exact last.ends.calm raised

end Storlets.Sbus
