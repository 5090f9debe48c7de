/-
This file proves that a shutdown is complete and that a router can be started again. All
that matters for the tasks of a router is when it was started since it was last shut
down: each of these starts has its tasks, which beat from that moment on, and there are
no others. With every beat the router advertises its routes or sweeps its neighbours. So
a router that is shut down does nothing by itself, whatever it receives, until it is
started; and no task ends because of a shutdown that came before its start.
-/

import Ipv4Router.Proofs.Timeline.Host

namespace Ipv4Router

/-! ### What the tasks of a start do -/

/-- What a router that is started does by itself. -/
def RouterSettings.duties (settings : RouterSettings) : List Duty :=
  if settings.routingEnabled then [.advertise, .sweep] else [.sweep]

/-- How long a duty is left undone. -/
def RouterSettings.interval (settings : RouterSettings) : Duty → Nat
  | .advertise => settings.routing.updateInterval
  | .sweep => settings.neighbors.retryInterval

/-- A task that does its duty at a moment and then after every interval. -/
def RouterSettings.task (settings : RouterSettings) (moment : Nat) (duty : Duty) :
    BackgroundTask :=
  ⟨duty, settings.interval duty, moment⟩

theorem RouterSettings.interval_pos {settings : RouterSettings}
    (advertised : 0 < settings.routing.updateInterval)
    (swept : 0 < settings.neighbors.retryInterval) (duty : Duty) : 0 < settings.interval duty := by
  cases duty with
  | advertise => exact advertised
  | sweep => exact swept

/-- Up to its start a task has one beat. -/
theorem RouterSettings.beatsBy_task {settings : RouterSettings} {duty : Duty}
    (positive : 0 < settings.interval duty) (moment : Nat) :
    (settings.task moment duty).beatsBy moment = [⟨moment, duty⟩] := by
  have due : (settings.task moment duty).isDueBy moment = true :=
    BackgroundTask.isDueBy_iff.mpr ⟨positive, Nat.le_refl moment⟩
  have onlyOnce : ¬ (settings.task moment duty).next.isDueBy moment = true := fun again =>
    Nat.not_lt_of_ge (BackgroundTask.isDueBy_iff.mp again).2 (Nat.lt_add_of_pos_right positive)
  rw [BackgroundTask.beatsBy_of_due due, BackgroundTask.beatsBy_of_not_due onlyOnce]
  rfl

theorem RouterSettings.length_duties (settings : RouterSettings) :
    settings.duties.length = if settings.routingEnabled then 2 else 1 := by
  unfold duties
  split <;> rfl

namespace Timeline

/-- What a router becomes with some beats, one after the other, and what it does meanwhile: at the
moment of each it advertises its routes or sweeps its neighbours. -/
inductive Ticks : Router → List Beat → Router → List Timed → Prop
  | none (router : Router) : Ticks router [] router []
  | advertise (moment : Nat) {router last : Router} {rest : List Beat} {later : List Timed}
    (ticks : Ticks (router.advertise moment).1 rest last later) :
    Ticks router (⟨moment, .advertise⟩ :: rest) last
      ((router.advertise moment).2.map (Timed.mk moment) ++ later)
  | sweep (moment : Nat) {router last : Router} {rest : List Beat} {later : List Timed}
    (ticks : Ticks (router.sweep moment).1 rest last later) :
    Ticks router (⟨moment, .sweep⟩ :: rest) last
      ((router.sweep moment).2.map (Timed.mk moment) ++ later)

theorem ticks_performAll (router : Router) (beats : List Beat) :
    Ticks router beats (performAll router beats).1 (performAll router beats).2 := by
  induction beats generalizing router with
  | nil => exact .none router
  | cons first rest inductionHypothesis =>
    obtain ⟨moment, duty⟩ := first
    cases duty with
    | advertise => exact .advertise moment (inductionHypothesis _)
    | sweep => exact .sweep moment (inductionHypothesis _)

theorem startTasks_eq (settings : RouterSettings) (moment : Nat) :
    startTasks settings moment = settings.duties.map (settings.task moment) := by
  unfold startTasks RouterSettings.duties
  split <;> rfl

/-- A start does at once what the router will do by itself, in some order, and nothing else if no
earlier task is due. -/
theorem ticks_start {timeline : Timeline}
    (positive : ∀ duty, 0 < timeline.router.settings.interval duty)
    (waiting : ∀ task ∈ timeline.tasks, timeline.now < task.due) :
    ∃ beats effects,
      beats.Perm (timeline.router.settings.duties.map (Beat.mk timeline.now)) ∧
      Ticks timeline.router beats timeline.start.1.router effects ∧
      timeline.start.2 =
        ⟨timeline.now, .note (.started timeline.router.registry.size)⟩ :: effects := by
  obtain ⟨beats, performs⟩ := exists_performs timeline.now timeline.router
    (timeline.tasks ++ startTasks timeline.router.settings timeline.now)
  have earlier : beatsBy timeline.now timeline.tasks = [] :=
    List.flatMap_eq_nil_iff.mpr fun task member => BackgroundTask.beatsBy_of_not_due fun due =>
      Nat.not_lt_of_ge (BackgroundTask.isDueBy_iff.mp due).2 (waiting task member)
  have fresh : beatsBy timeline.now (startTasks timeline.router.settings timeline.now) =
      timeline.router.settings.duties.map (Beat.mk timeline.now) := by
    rw [startTasks_eq, beatsBy, List.flatMap_map, List.map_eq_flatMap]
    exact List.flatMap_congr fun duty _ => RouterSettings.beatsBy_task (positive duty) _
  refine ⟨beats, (performAll timeline.router beats).2, ?_, ?_, ?_⟩
  · have perm := performs.perm
    rwa [beatsBy, List.flatMap_append, ← beatsBy, ← beatsBy, earlier, fresh] at perm
  · simp only [start, performs.run_eq]
    exact ticks_performAll timeline.router beats
  · simp only [start, performs.run_eq, (performAll_keeps timeline.router beats).1]

end Timeline

/-! ### Starts since the last shutdown -/

/-- The time, and the moments at which a router was started since it was last shut down. -/
structure Agenda where
  now : Nat
  starts : List Nat := []

namespace Agenda

open Timeline (Command)

def note (agenda : Agenda) : Command → Agenda
  | .start => { agenda with starts := agenda.starts ++ [agenda.now] }
  | .advance duration => { agenda with now := agenda.now + duration }
  | .shutdown => { agenda with starts := [] }
  | .receive _ _ => agenda

def noteAll (agenda : Agenda) (commands : List Command) : Agenda := commands.foldl note agenda

/-- The tasks of all these starts, after their beats until now. -/
def tasks (agenda : Agenda) (settings : RouterSettings) : List BackgroundTask :=
  agenda.starts.flatMap fun moment =>
    settings.duties.map fun duty => (settings.task moment duty).afterBeats agenda.now

/-- The beats of all these starts that come after now and up to a limit: each at its start or a
number of intervals later. -/
def beatsBy (limit : Nat) (agenda : Agenda) (settings : RouterSettings) : List Beat :=
  agenda.starts.flatMap fun moment => settings.duties.flatMap fun duty =>
    ((settings.task moment duty).beatsBy limit).filter fun beat => agenda.now < beat.moment

variable (agenda : Agenda) (settings : RouterSettings)

theorem noteAll_append (commands others : List Command) :
    agenda.noteAll (commands ++ others) = (agenda.noteAll commands).noteAll others :=
  List.foldl_append

theorem map_tasks {limit : Nat} (within : agenda.now ≤ limit) :
    (agenda.tasks settings).map (BackgroundTask.afterBeats limit) =
      { agenda with now := limit }.tasks settings := by
  rw [tasks, List.map_flatMap]
  refine List.flatMap_congr fun moment _ => ?_
  rw [List.map_map]
  exact List.map_congr_left fun duty _ => BackgroundTask.afterBeats_afterBeats within _

theorem beatsBy_tasks {limit : Nat} (within : agenda.now ≤ limit) :
    Timeline.beatsBy limit (agenda.tasks settings) = agenda.beatsBy limit settings := by
  rw [Timeline.beatsBy, tasks, List.flatMap_assoc]
  refine List.flatMap_congr fun moment _ => ?_
  rw [List.flatMap_map]
  exact List.flatMap_congr fun duty _ => BackgroundTask.beatsBy_afterBeats within _

theorem length_tasks :
    (agenda.tasks settings).length =
      agenda.starts.length * if settings.routingEnabled then 2 else 1 := by
  simp only [tasks, List.length_flatMap, List.length_map, settings.length_duties, List.map_const',
    List.sum_replicate, smul_eq_mul]

/-- After a shutdown there are no starts until the next one. -/
theorem starts_noteAll_of_none {commands : List Command} (none : .start ∉ commands)
    (idle : agenda.starts = []) : (agenda.noteAll commands).starts = [] := by
  refine List.foldlRecOn (motive := fun agenda => agenda.starts = []) commands note idle
    fun agenda idle command member => ?_
  cases command with
  | start => exact absurd member none
  | advance duration | receive octets interfaceName => exact idle
  | shutdown => rfl

/-- A start stays until the next shutdown. -/
theorem mem_starts_noteAll {commands : List Command} (lasts : .shutdown ∉ commands) {moment : Nat}
    (started : moment ∈ agenda.starts) : moment ∈ (agenda.noteAll commands).starts := by
  refine List.foldlRecOn (motive := fun agenda => moment ∈ agenda.starts) commands note started
    fun agenda started command member => ?_
  cases command with
  | start => exact List.mem_append_left _ started
  | advance duration | receive octets interfaceName => exact started
  | shutdown => exact absurd member lasts

end Agenda

/-! ### Clocks that follow an agenda -/

namespace Timeline

/-- The clock shows the time of the agenda, and has just the tasks of its starts. -/
structure Follows (agenda : Agenda) (settings : RouterSettings) (timeline : Timeline) : Prop where
  sameNow : timeline.now = agenda.now
  sameSettings : timeline.router.settings = settings
  tasks : timeline.tasks = agenda.tasks settings

variable {agenda : Agenda} {settings : RouterSettings} {timeline : Timeline}

theorem Follows.obey (follows : timeline.Follows agenda settings) (command : Command) :
    (timeline.obey command).Follows (agenda.note command) settings := by
  obtain ⟨now, sameSettings, tasks⟩ := follows
  cases command with
  | start =>
    obtain ⟨settingsAfter, tasksAfter⟩ := run_tasks timeline.now timeline.router
      (timeline.tasks ++ startTasks timeline.router.settings timeline.now)
    refine ⟨now, settingsAfter.trans sameSettings, tasksAfter.trans ?_⟩
    -- the tasks that were there have beaten until now, so only the new ones beat
    rw [List.map_append, tasks, now, sameSettings,
      agenda.map_tasks settings (Nat.le_refl agenda.now), startTasks_eq, List.map_map]
    simp only [Agenda.tasks, Agenda.note, List.flatMap_append, List.flatMap_cons,
      List.flatMap_nil, List.append_nil]
    rfl
  | advance duration =>
    obtain ⟨settingsAfter, tasksAfter⟩ := run_tasks (timeline.now + duration) timeline.router
      timeline.tasks
    refine ⟨congrArg (· + duration) now, settingsAfter.trans sameSettings, tasksAfter.trans ?_⟩
    rw [tasks, now, agenda.map_tasks settings (Nat.le_add_right agenda.now duration)]
    rfl
  | shutdown => exact ⟨now, sameSettings, rfl⟩
  | receive octets interfaceName =>
    exact ⟨now, (timeline.router.receive_keeps timeline.now octets interfaceName).2.trans
      sameSettings, tasks⟩

theorem Follows.obeyAll (follows : timeline.Follows agenda settings) (commands : List Command) :
    (timeline.obeyAll commands).Follows (agenda.noteAll commands) settings := by
  induction commands generalizing timeline agenda with
  | nil => exact follows
  | cons command rest inductionHypothesis => exact inductionHypothesis (follows.obey command)

end Timeline

/-! ### Shutdowns and new starts -/

namespace Host

/-- Nothing was spawned, or everything that was has been waited for. -/
structure Idle (host : Host) : Prop where
  handles : host.handles = []
  processes : host.processes = []
  failed : host.failed = []

/-- The starts of a host since its last shutdown, after some commands. -/
def agenda (host : Host) (commands : List Timeline.Command) : Agenda :=
  Agenda.noteAll ⟨host.now, []⟩ commands

/-- What became of a host and its tasks with some commands. It did what the clock does, and goes on
doing so. Every start since the last shutdown counts for its tasks, and just the tasks that are
counted have not ended; none of them is about to end, and none is late. While time passes, the
router advertises and sweeps at just the beats of these starts, in order of time: so nothing happens
from a shutdown to the next start. A new start does at once what its tasks will do, which last until
the next shutdown, whatever came before. -/
structure Lifecycle (host : Host) (commands : List Timeline.Command) (last : Host) : Prop where
  timeline_eq : last.timeline = host.timeline.obeyAll commands
  start_eq : (last.start.1.timeline, last.start.2) = last.timeline.start
  advance_eq : ∀ duration, ((last.advance duration).1.timeline, (last.advance duration).2) =
    last.timeline.advance duration
  taskCount_eq : last.taskCount =
    (host.agenda commands).starts.length * if host.router.settings.routingEnabled then 2 else 1
  living : last.processes.map Process.handle = last.handles ∧ last.handles.Nodup
  tasks_eq : last.processes.map Process.task =
    (host.agenda commands).tasks host.router.settings
  waiting : ∀ process ∈ last.processes,
    process.isCalled last.sent = false ∧ last.now < process.task.due
  ticks : ∀ duration, ∃ beats, Timeline.InOrder beats ∧
    beats.Perm ((host.agenda commands).beatsBy (last.now + duration) host.router.settings) ∧
    Timeline.Ticks last.router beats (last.advance duration).1.router (last.advance duration).2
  quiet : ∀ before after, commands = before ++ .shutdown :: after → .start ∉ after →
    ∀ duration, last.advance duration = ({ last with now := last.now + duration }, [])
  starting : ∃ beats effects,
    beats.Perm (host.router.settings.duties.map (Beat.mk last.now)) ∧
    Timeline.Ticks last.router beats last.start.1.router effects ∧
    last.start.2 = ⟨last.now, .note (.started last.router.registry.size)⟩ :: effects
  lasting : ∀ before after, commands = before ++ .start :: after → .shutdown ∉ after →
    ∀ duty ∈ host.router.settings.duties,
      (host.router.settings.task (host.timeline.obeyAll before).now duty).afterBeats last.now ∈
        last.processes.map Process.task

section Last

variable {host last : Host} {commands : List Timeline.Command}

theorem Idle.orderly (idle : host.Idle)
    (advertised : 0 < host.router.settings.routing.updateInterval)
    (swept : 0 < host.router.settings.neighbors.retryInterval) : host.Orderly := by
  refine ⟨⟨advertised, swept, ?_, ?_, ?_, ?_, ?_, idle.failed⟩, ?_⟩
  · rw [idle.processes, idle.handles]
    rfl
  · exact idle.handles ▸ .nil
  · rw [idle.handles]
    exact nofun
  all_goals
    rw [idle.processes]
    exact nofun

theorem Idle.follows (idle : host.Idle) (commands : List Timeline.Command) :
    (host.timeline.obeyAll commands).Follows (host.agenda commands) host.router.settings := by
  have begins : host.timeline.Follows ⟨host.now, []⟩ host.router.settings :=
    ⟨rfl, rfl, congrArg (List.map Process.task) idle.processes⟩
  exact begins.obeyAll commands

theorem starts_of_shutdown (before after : List Timeline.Command) (none : .start ∉ after) :
    (host.agenda (before ++ .shutdown :: after)).starts = [] := by
  rw [agenda, Agenda.noteAll_append]
  exact Agenda.starts_noteAll_of_none (Agenda.note _ .shutdown) none rfl

theorem mem_starts_of_start (before after : List Timeline.Command) (lasts : .shutdown ∉ after) :
    (host.agenda before).now ∈ (host.agenda (before ++ .start :: after)).starts := by
  rw [agenda, agenda, Agenda.noteAll_append]
  exact Agenda.mem_starts_noteAll (Agenda.note _ .start) lasts
    (List.mem_append_right _ List.mem_cons_self)

/-- Without tasks, nothing happens while time passes. -/
theorem Orderly.advance_of_none (orderly : last.Orderly) (none : last.processes = [])
    (duration : Nat) : last.advance duration = ({ last with now := last.now + duration }, []) := by
  have idle : Timeline.run (last.now + duration) last.router [] = (last.router, [], []) :=
    Timeline.run_of_none rfl
  rw [Host.advance, orderly.settle_eq]
  simp only [none, List.map_nil, idle]

/-- A start does at once what its tasks will do, as no other task is due. -/
theorem Orderly.ticks_start (orderly : last.Orderly) :
    ∃ beats effects, beats.Perm (last.router.settings.duties.map (Beat.mk last.now)) ∧
      Timeline.Ticks last.router beats last.start.1.router effects ∧
      last.start.2 = ⟨last.now, .note (.started last.router.registry.size)⟩ :: effects := by
  have waiting : ∀ task ∈ last.timeline.tasks, last.now < task.due := by
    intro task member
    obtain ⟨process, inProcesses, rfl⟩ := List.mem_map.mp member
    exact orderly.waiting process inProcesses
  obtain ⟨timeline_eq, effects_eq⟩ := Prod.mk.inj orderly.start.2
  rw [effects_eq, ← show last.start.1.timeline.router = last.start.1.router from rfl, timeline_eq]
  exact Timeline.ticks_start (RouterSettings.interval_pos orderly.advertised orderly.swept) waiting

end Last

/-- A shutdown is complete and leaves nothing behind. Let a router with intervals be started, shut
down, given frames and left alone, in any order and as often as one likes: it always comes to an
end, and just the starts since the last shutdown have tasks, which beat from their start on. -/
theorem lifecycle (host : Host) (idle : host.Idle)
    (advertised : 0 < host.router.settings.routing.updateInterval)
    (swept : 0 < host.router.settings.neighbors.retryInterval)
    (commands : List Timeline.Command) :
    ∃ last, host.obeyAll? commands = some last ∧ Lifecycle host commands last := by
  obtain ⟨last, obeyed, orderly, timeline_eq⟩ :=
    (idle.orderly advertised swept).obeyAll? commands
  have follows := timeline_eq ▸ idle.follows commands
  have now_eq : last.now = (host.agenda commands).now := follows.sameNow
  have tasks_eq : last.processes.map Process.task =
      (host.agenda commands).tasks host.router.settings := follows.tasks
  have settings_eq : last.router.settings = host.router.settings := follows.sameSettings
  refine ⟨last, obeyed, timeline_eq, orderly.start.2,
    fun duration => (orderly.advance duration).2, ?_, ⟨orderly.handles, orderly.distinct⟩,
    tasks_eq, ?_, ?_, ?_, ?_, ?_⟩
  · rw [taskCount, ← orderly.handles, ← Agenda.length_tasks, ← tasks_eq, List.length_map,
      List.length_map]
  · exact fun process member =>
      ⟨orderly.isCalled_eq process member, orderly.waiting process member⟩
  · intro duration
    obtain ⟨beats, inOrder, perm, run_eq⟩ := Timeline.exists_performs (last.now + duration)
      last.router (last.processes.map Process.task)
    have within : (host.agenda commands).now ≤ last.now + duration :=
      Nat.le_add_right_of_le (Nat.le_of_eq now_eq.symm)
    refine ⟨beats, inOrder, ?_, ?_⟩
    · rw [← Agenda.beatsBy_tasks _ _ within, ← tasks_eq]
      exact perm
    · rw [Host.advance, orderly.settle_eq, run_eq]
      exact Timeline.ticks_performAll last.router beats
  · intro before after split none
    have noTasks : last.processes.map Process.task = [] := by
      rw [tasks_eq, split, Agenda.tasks, starts_of_shutdown before after none, List.flatMap_nil]
    exact orderly.advance_of_none (List.map_eq_nil_iff.mp noTasks)
  · exact settings_eq ▸ orderly.ticks_start
  · intro before after split lasts duty isDone
    have started : (host.timeline.obeyAll before).now ∈ (host.agenda commands).starts := by
      rw [(idle.follows before).sameNow, split]
      exact mem_starts_of_start before after lasts
    rw [tasks_eq, now_eq]
    exact List.mem_flatMap.mpr ⟨_, started, List.mem_map_of_mem isDone⟩

/-! ### A router that is started again -/

namespace Restart

/-- The tasks that it had are gone. -/
def host : Host where
  router := Timeline.Chime.waiting
  now := 10
  sent := 1
  spawned := 4

/-- Two starts that overlap, a shutdown, and a frame that comes in while no task is left. -/
def commands : List Timeline.Command :=
  [.start, .advance 5, .start, .advance 20, .shutdown, .advance 100,
    .receive Router.Transit.frame "eth0"]

/-- The outer subnet is advertised on the inner one. -/
def advertisedInside : Octets :=
  [1, 0, 0x5e, 0, 0, 9, 2, 0, 0, 0, 0, 1, 8, 0, 0x45, 0, 0, 52, 0, 0, 0, 0, 16, 17, 0xc0, 0xaf, 10,
   0, 0, 1, 0xe0, 0, 0, 9, 2, 8, 2, 8, 0, 32, 0xfb, 0x8d, 2, 2, 0, 0, 0, 2, 0, 0, 10, 0, 1, 0,
   0xff, 0xff, 0xff, 0, 10, 0, 0, 1, 0, 0, 0, 0]

/-- The inner subnet is advertised on the outer one. -/
def advertisedOutside : Octets :=
  [1, 0, 0x5e, 0, 0, 9, 2, 0, 0, 0, 0, 2, 8, 0, 0x45, 0, 0, 52, 0, 0, 0, 0, 16, 17, 0xbf, 0xaf, 10,
   0, 1, 1, 0xe0, 0, 0, 9, 2, 8, 2, 8, 0, 32, 0xfa, 0x8d, 2, 2, 0, 0, 0, 2, 0, 0, 10, 0, 0, 0,
   0xff, 0xff, 0xff, 0, 10, 0, 1, 1, 0, 0, 0, 0]

/-- The station is asked for that the frame is to go to. -/
def asked : Octets :=
  [0xff, 0xff, 0xff, 0xff, 0xff, 0xff, 2, 0, 0, 0, 0, 2, 8, 6, 0, 1, 8, 0, 6, 4, 0, 1, 2, 0, 0, 0,
   0, 2, 10, 0, 1, 1, 0, 0, 0, 0, 0, 0, 10, 0, 1, 7]

/-- The frames that leave, each with its time and interface. -/
def sent (effects : List Timed) : List (Nat × String × Octets) :=
  effects.filterMap fun timed => timed.effect.transmission?.map (timed.time, ·)

end Restart

/-- With one more start the router advertises its routes at once, and its tasks, which are the only
ones, ask for the station and advertise again as soon as an interval has passed. -/
theorem lifecycle_restart :
    Restart.host.Idle ∧ 0 < Restart.host.router.settings.routing.updateInterval ∧
      0 < Restart.host.router.settings.neighbors.retryInterval ∧
      (∃ ended, Restart.host.obeyAll? Restart.commands = some ended ∧
        Lifecycle Restart.host Restart.commands ended ∧ ended.taskCount = 0 ∧
        Restart.sent ended.start.2 =
          [(135, "eth0", Restart.advertisedInside), (135, "eth1", Restart.advertisedOutside)]) ∧
      ∃ last, Restart.host.obeyAll? (Restart.commands ++ [.start]) = some last ∧
        Lifecycle Restart.host (Restart.commands ++ [.start]) last ∧ last.taskCount = 2 ∧
        last.processes.map Process.task = [⟨.advertise, 20, 155⟩, ⟨.sweep, 10, 145⟩] ∧
        Restart.sent (last.advance 20).2 =
          [(145, "eth1", Restart.asked), (155, "eth0", Restart.advertisedInside),
            (155, "eth1", Restart.advertisedOutside)] := by
  have idle : Restart.host.Idle := ⟨rfl, rfl, rfl⟩
  have advertised : 0 < Restart.host.router.settings.routing.updateInterval := by decide +kernel
  have swept : 0 < Restart.host.router.settings.neighbors.retryInterval := by decide +kernel
  have enabled : Restart.host.router.settings.routingEnabled = true := by decide +kernel
  obtain ⟨ended, endedObeyed, atEnd⟩ :=
    lifecycle Restart.host idle advertised swept Restart.commands
  obtain ⟨last, obeyed, outcome⟩ :=
    lifecycle Restart.host idle advertised swept (Restart.commands ++ [.start])
  refine ⟨idle, advertised, swept, ⟨ended, endedObeyed, atEnd, ?_, ?_⟩, last, obeyed, outcome, ?_,
    ?_, ?_⟩
  · have noStarts : (Restart.host.agenda Restart.commands).starts = [] := rfl
    rw [atEnd.taskCount_eq, noStarts]
    rfl
  · rw [(Prod.mk.inj atEnd.start_eq).2, atEnd.timeline_eq]
    decide +kernel
  · have started : (Restart.host.agenda (Restart.commands ++ [.start])).starts = [135] := rfl
    rw [outcome.taskCount_eq, started, enabled]
    rfl
  · rw [outcome.tasks_eq]
    decide +kernel
  · rw [(Prod.mk.inj (outcome.advance_eq 20)).2, outcome.timeline_eq]
    decide +kernel

end Host

end Ipv4Router
