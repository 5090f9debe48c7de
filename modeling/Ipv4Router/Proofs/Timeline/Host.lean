/-
This file defines how the background tasks of a router are kept, started and ended. A
start spawns tasks, keeps their handles, and subscribes them to one broadcast channel. A
shutdown sends a broadcast and then waits for every task that it has a handle of: it is
heard by the tasks that subscribed before it was sent, and by no others. The clock of the
router has just the tasks of this host that have not ended, as long as the host is
orderly: its handles are those of its tasks, none of them was called, and all of them
wait for a later beat. Every command leaves it orderly, and no shutdown waits for ever.
-/

import Ipv4Router.Proofs.Timeline.Beats

namespace Ipv4Router

/-- A spawned task that has not ended. It has a handle by which it can be waited for, and hears
the broadcasts that are sent after those that were sent when it subscribed. -/
structure Process where
  handle : Nat
  task : BackgroundTask
  subscribed : Nat
deriving DecidableEq

namespace Process

/-- A broadcast was sent since the process subscribed. -/
def isCalled (sent : Nat) (process : Process) : Bool := process.subscribed < sent

/-- No timer can be made without an interval. -/
def fails (process : Process) : Bool := process.task.period = 0

/-- The process after its beats up to a limit. -/
def afterBeats (limit : Nat) (process : Process) : Process :=
  { process with task := process.task.afterBeats limit }

end Process

/-- A router with its clock and the tasks it spawned: how many broadcasts were sent and how many
tasks spawned, the handles of the tasks that were not waited for yet, the tasks that have not
ended, and the handles of those that failed. -/
structure Host where
  router : Router
  now : Nat := 0
  sent : Nat := 0
  spawned : Nat := 0
  handles : List Nat := []
  processes : List Process := []
  failed : List Nat := []
deriving DecidableEq

namespace Host

/-- The router on its clock with the tasks that have not ended. -/
def timeline (host : Host) : Timeline :=
  ⟨host.router, host.now, host.processes.map Process.task⟩

/-- The number of tasks that were spawned and not waited for yet. -/
def taskCount (host : Host) : Nat := host.handles.length

/-! ### Commands -/

/-- Lets the processes run until a limit. Those that cannot have a timer fail, those that hear a
broadcast end, and the others beat. One that hears a broadcast when a beat is due might do either
first; in an orderly host there is none. -/
def settle (limit : Nat) (host : Host) : Host × List Timed :=
  let failing := host.processes.filter Process.fails
  let timed := host.processes.filter fun process => !process.fails
  let ending := timed.filter (Process.isCalled host.sent)
  let lasting := timed.filter fun process => !process.isCalled host.sent
  let (router, tasks, effects) := Timeline.run limit host.router (lasting.map Process.task)
  ({ host with
      router
      now := limit
      processes := lasting.zipWith (fun process task => { process with task }) tasks
      failed := host.failed ++ failing.map Process.handle },
    ending.map (fun process => ⟨host.now, .note process.task.duty.stopNotice⟩) ++ effects)

/-- Spawns a task, subscribes it and keeps its handle. -/
def spawn (host : Host) (task : BackgroundTask) : Host :=
  { host with
    spawned := host.spawned + 1
    handles := host.handles ++ [host.spawned]
    processes := host.processes ++ [⟨host.spawned, task, host.sent⟩] }

/-- Spawns the background tasks, which begin to run at once. -/
def start (host : Host) : Host × List Timed :=
  let tasks := Timeline.startTasks host.router.settings host.now
  let (after, effects) := (tasks.foldl spawn host).settle host.now
  (after, ⟨host.now, .note (.started after.router.registry.size)⟩ :: effects)

def advance (host : Host) (duration : Nat) : Host × List Timed := host.settle (host.now + duration)

/-- Sends a broadcast, gives up all handles and waits for every task that one of them is of, and
for ever if it does not end. -/
def shutdown? (host : Host) : Option (Host × List Timed) :=
  let (after, effects) := { host with sent := host.sent + 1, handles := [] }.settle host.now
  if host.handles.any fun handle => after.processes.any (·.handle = handle) then none
  else
    let abnormal := host.handles.filter fun handle => after.failed.contains handle
    some (after, effects ++ (abnormal.map (fun _ => Notice.taskFailed) ++ [Notice.stopped]).map
      fun notice => ⟨host.now, .note notice⟩)

def receive (host : Host) (octets : Octets) (interfaceName : String) : Host × List Effect :=
  let (router, effects) := host.router.receive octets interfaceName host.now
  ({ host with router }, effects)

/-- Does one thing with the router, unless it never comes to an end. -/
def obey? (host : Host) : Timeline.Command → Option Host
  | .start => some host.start.1
  | .advance duration => some (host.advance duration).1
  | .shutdown => host.shutdown?.map Prod.fst
  | .receive octets interfaceName => some (host.receive octets interfaceName).1

def obeyAll? (host : Host) (commands : List Timeline.Command) : Option Host :=
  commands.foldlM obey? host

/-! ### Hosts whose processes all run -/

/-- All processes can be waited for, and none will end. -/
structure Tended (host : Host) : Prop where
  advertised : 0 < host.router.settings.routing.updateInterval
  swept : 0 < host.router.settings.neighbors.retryInterval
  handles : host.processes.map Process.handle = host.handles
  distinct : host.handles.Nodup
  given : ∀ handle ∈ host.handles, handle < host.spawned
  timed : ∀ process ∈ host.processes, 0 < process.task.period
  uncalled : ∀ process ∈ host.processes, process.subscribed = host.sent
  sound : host.failed = []

/-- All processes wait for something that is still to come. -/
structure Orderly (host : Host) : Prop extends Tended host where
  waiting : ∀ process ∈ host.processes, host.now < process.task.due

variable {host : Host}

theorem zipWith_tasks (limit : Nat) (processes : List Process) :
    processes.zipWith (fun process task => { process with task })
      ((processes.map Process.task).map (BackgroundTask.afterBeats limit)) =
        processes.map (Process.afterBeats limit) := by
  rw [List.map_map, List.zipWith_map_right, List.zipWith_self]
  rfl

/-- A test that is the same for all items keeps all of them or none. -/
theorem filter_eq_of_same {Item : Type} {test : Item → Bool} {items : List Item} (value : Bool)
    (same : ∀ item ∈ items, test item = value) :
    items.filter test = cond value items [] ∧
      (items.filter fun item => !test item) = cond value [] items := by
  cases value with
  | false =>
    exact ⟨List.filter_eq_nil_iff.mpr fun item member => by simp [same item member],
      List.filter_eq_self.mpr fun item member => by simp [same item member]⟩
  | true =>
    exact ⟨List.filter_eq_self.mpr fun item member => same item member,
      List.filter_eq_nil_iff.mpr fun item member => by simp [same item member]⟩

theorem Tended.fails_eq (tended : host.Tended) :
    ∀ process ∈ host.processes, process.fails = false := fun process member =>
  decide_eq_false (Nat.ne_of_gt (tended.timed process member))

theorem Tended.isCalled_eq (tended : host.Tended) :
    ∀ process ∈ host.processes, process.isCalled host.sent = false := fun process member =>
  decide_eq_false (tended.uncalled process member ▸ Nat.lt_irrefl _)

/-- The next broadcast calls all processes. -/
theorem Tended.isCalled_succ (tended : host.Tended) :
    ∀ process ∈ host.processes, process.isCalled (host.sent + 1) = true := fun process member =>
  decide_eq_true (tended.uncalled process member ▸ Nat.lt_succ_self _)

/-- Nothing fails or ends, so the processes do what the tasks of the clock do. -/
theorem Tended.settle_eq (tended : host.Tended) (limit : Nat) :
    host.settle limit =
      ({ host with
          router := (Timeline.run limit host.router (host.processes.map Process.task)).1
          now := limit
          processes := host.processes.map (Process.afterBeats limit) },
        (Timeline.run limit host.router (host.processes.map Process.task)).2.2) := by
  obtain ⟨noneFails, allTimed⟩ := filter_eq_of_same false tended.fails_eq
  obtain ⟨noneEnds, allLast⟩ := filter_eq_of_same false tended.isCalled_eq
  obtain ⟨beats, performs⟩ := Timeline.exists_performs limit host.router
    (host.processes.map Process.task)
  simp only [settle, noneFails, allTimed, noneEnds, allLast, performs.run_eq, zipWith_tasks,
    cond_false, List.map_nil, List.append_nil, List.nil_append]

theorem Tended.timeline_settle (tended : host.Tended) (limit : Nat) :
    ((host.settle limit).1.timeline, (host.settle limit).2) =
      let (router, tasks, effects) :=
        Timeline.run limit host.router (host.processes.map Process.task)
      (⟨router, limit, tasks⟩, effects) := by
  obtain ⟨beats, performs⟩ := Timeline.exists_performs limit host.router
    (host.processes.map Process.task)
  simp only [tended.settle_eq, timeline, performs.run_eq, List.map_map]
  rfl

theorem Tended.orderly_settle (tended : host.Tended) (limit : Nat) :
    (host.settle limit).1.Orderly := by
  have settings := (Timeline.run_tasks limit host.router (host.processes.map Process.task)).1
  rw [tended.settle_eq]
  refine ⟨⟨?_, ?_, ?_, tended.distinct, tended.given, ?_, ?_, tended.sound⟩, ?_⟩
  · exact settings ▸ tended.advertised
  · exact settings ▸ tended.swept
  · exact (List.map_map ..).trans tended.handles
  · intro process member
    obtain ⟨before, inProcesses, rfl⟩ := List.mem_map.mp member
    exact tended.timed before inProcesses
  · intro process member
    obtain ⟨before, inProcesses, rfl⟩ := List.mem_map.mp member
    exact tended.uncalled before inProcesses
  · intro process member
    obtain ⟨before, inProcesses, rfl⟩ := List.mem_map.mp member
    exact BackgroundTask.lt_due_afterBeats (tended.timed before inProcesses)

/-! ### What every command does -/

theorem Tended.spawn (tended : host.Tended) (task : BackgroundTask) (timed : 0 < task.period) :
    (host.spawn task).Tended where
  advertised := tended.advertised
  swept := tended.swept
  handles := by
    simp only [Host.spawn, List.map_append, tended.handles]
    rfl
  distinct := by
    refine List.nodup_append'.mpr ⟨tended.distinct, List.nodup_singleton _, ?_⟩
    intro handle given same
    exact Nat.ne_of_lt (tended.given handle given) (List.mem_singleton.mp same)
  given := by
    intro handle member
    rcases List.mem_append.mp member with old | new
    · exact Nat.lt_succ_of_lt (tended.given handle old)
    · exact List.mem_singleton.mp new ▸ Nat.lt_succ_self _
  timed := by
    intro process member
    rcases List.mem_append.mp member with old | new
    · exact tended.timed process old
    · exact List.mem_singleton.mp new ▸ timed
  uncalled := by
    intro process member
    rcases List.mem_append.mp member with old | new
    · exact tended.uncalled process old
    · exact List.mem_singleton.mp new ▸ rfl
  sound := tended.sound

theorem Tended.spawnAll (tended : host.Tended) (tasks : List BackgroundTask)
    (timed : ∀ task ∈ tasks, 0 < task.period) : (tasks.foldl Host.spawn host).Tended := by
  induction tasks generalizing host with
  | nil => exact tended
  | cons task rest inductionHypothesis =>
    exact inductionHypothesis (tended.spawn task (timed task List.mem_cons_self))
      fun later member => timed later (List.mem_cons_of_mem _ member)

/-- Spawning adds the tasks and leaves the router and the time as they are. -/
theorem timeline_spawnAll (host : Host) (tasks : List BackgroundTask) :
    (tasks.foldl Host.spawn host).timeline =
      { host.timeline with tasks := host.timeline.tasks ++ tasks } := by
  induction tasks generalizing host with
  | nil => simp only [List.foldl_nil, List.append_nil]
  | cons task rest inductionHypothesis =>
    rw [List.foldl_cons, inductionHypothesis]
    simp only [timeline, Host.spawn, List.map_append, List.map_cons, List.map_nil,
      List.append_assoc, List.cons_append, List.nil_append]

theorem timed_startTasks {settings : RouterSettings}
    (advertised : 0 < settings.routing.updateInterval)
    (swept : 0 < settings.neighbors.retryInterval) (now : Nat) :
    ∀ task ∈ Timeline.startTasks settings now, 0 < task.period := by
  intro task member
  unfold Timeline.startTasks at member
  split at member
  · simp only [List.mem_cons, List.not_mem_nil, or_false] at member
    rcases member with rfl | rfl
    · exact advertised
    · exact swept
  · rw [List.mem_singleton.mp member]
    exact swept

theorem Orderly.start (orderly : host.Orderly) :
    host.start.1.Orderly ∧ (host.start.1.timeline, host.start.2) = host.timeline.start := by
  have tended := orderly.spawnAll _
    (timed_startTasks orderly.advertised orderly.swept host.now)
  have spawned := timeline_spawnAll host
    (Timeline.startTasks host.router.settings host.now)
  have settled := tended.timeline_settle host.now
  obtain ⟨router_eq, -, tasks_eq⟩ := Timeline.mk.inj spawned
  rw [router_eq, tasks_eq] at settled
  obtain ⟨timeline_eq, effects_eq⟩ := Prod.mk.inj settled
  refine ⟨tended.orderly_settle host.now, Prod.ext timeline_eq ?_⟩
  have router_settled := congrArg Timeline.router timeline_eq
  simp only [timeline] at router_settled
  simp only [Host.start, Timeline.start, effects_eq, router_settled]
  rfl

theorem Orderly.advance (orderly : host.Orderly) (duration : Nat) :
    (host.advance duration).1.Orderly ∧
      ((host.advance duration).1.timeline, (host.advance duration).2) =
        host.timeline.advance duration :=
  ⟨orderly.orderly_settle _, orderly.timeline_settle _⟩

/-- All tasks subscribed before the broadcast, so all of them end and nothing is waited for in
vain. -/
theorem Orderly.shutdown? (orderly : host.Orderly) :
    host.shutdown? = some ({ host with sent := host.sent + 1, handles := [], processes := [] },
      host.timeline.shutdown.2) := by
  obtain ⟨noneFails, allTimed⟩ := filter_eq_of_same false orderly.fails_eq
  obtain ⟨allEnd, noneLasts⟩ := filter_eq_of_same true orderly.isCalled_succ
  have idle : Timeline.run host.now host.router [] = (host.router, [], []) :=
    Timeline.run_of_none rfl
  have noneAbnormal : (host.handles.filter fun handle => host.failed.contains handle) = [] :=
    List.filter_eq_nil_iff.mpr fun handle _ => by simp [orderly.sound]
  have noneLeft : (host.handles.any fun handle =>
      ([] : List Process).any (·.handle = handle)) = false :=
    List.any_eq_false.mpr fun _ _ => Bool.false_ne_true
  have notices : host.processes.map (fun process => process.task.duty.stopNotice) =
      (host.processes.map Process.task).map BackgroundTask.stopNotice := by
    rw [List.map_map]
    exact List.map_congr_left fun process member => (if_pos (orderly.timed process member)).symm
  have noted : host.timeline.shutdown.2 =
      host.processes.map (fun process => ⟨host.now, .note process.task.duty.stopNotice⟩) ++
        [⟨host.now, .note .stopped⟩] := by
    rw [Timeline.shutdown, List.map_append, timeline, ← notices, List.map_map]
    rfl
  simp only [Host.shutdown?, settle, noneFails, allTimed, allEnd, noneLasts, cond_false, cond_true,
    idle, List.map_nil, List.append_nil, noneAbnormal, List.zipWith_nil_left, noneLeft, noted]
  rfl

theorem Orderly.obey? (orderly : host.Orderly) (command : Timeline.Command) :
    ∃ next, host.obey? command = some next ∧ next.Orderly ∧
      next.timeline = host.timeline.obey command := by
  cases command with
  | start =>
    exact ⟨host.start.1, rfl, orderly.start.1, congrArg Prod.fst orderly.start.2⟩
  | advance duration =>
    exact ⟨_, rfl, (orderly.advance duration).1, congrArg Prod.fst (orderly.advance duration).2⟩
  | shutdown =>
    refine ⟨{ host with sent := host.sent + 1, handles := [], processes := [] }, ?_, ?_, rfl⟩
    · rw [Host.obey?, orderly.shutdown?]
      rfl
    · exact ⟨⟨orderly.advertised, orderly.swept, rfl, .nil, nofun, nofun, nofun, orderly.sound⟩,
        nofun⟩
  | receive octets interfaceName =>
    have settings := (host.router.receive_keeps host.now octets interfaceName).2
    exact ⟨_, rfl, ⟨{ orderly.toTended with
      advertised := settings ▸ orderly.advertised
      swept := settings ▸ orderly.swept }, orderly.waiting⟩, rfl⟩

/-- Whatever is done with an orderly host comes to an end, and does what the clock does. -/
theorem Orderly.obeyAll? (orderly : host.Orderly) (commands : List Timeline.Command) :
    ∃ last, host.obeyAll? commands = some last ∧ last.Orderly ∧
      last.timeline = host.timeline.obeyAll commands := by
  induction commands generalizing host with
  | nil => exact ⟨host, rfl, orderly, rfl⟩
  | cons command rest inductionHypothesis =>
    obtain ⟨next, obeyed, nextOrderly, next_eq⟩ := orderly.obey? command
    obtain ⟨last, allObeyed, lastOrderly, last_eq⟩ := inductionHypothesis nextOrderly
    refine ⟨last, ?_, lastOrderly, last_eq.trans (congrArg (Timeline.obeyAll · rest) next_eq)⟩
    rw [Host.obeyAll?, List.foldlM_cons, obeyed]
    exact allObeyed

end Host

end Ipv4Router
