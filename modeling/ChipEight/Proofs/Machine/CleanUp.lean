import ChipEight.Host.Desktop
import ChipEight.Proofs.Machine.Recorded
import ChipEight.Proofs.Machine.Replay
import ChipEight.Proofs.Machine.Stages

/-!
How a run ends. Whichever way the main loop is left, at whichever stage, the machine stands still
afterwards, the sound is off, the window is closed, and the machine knows the fault that ended the
run, if it was one.
-/

namespace ChipEight

variable {τ η : Type}

/-- During a run nobody puts a window or a sound there, or takes one away. -/
def Host.Steady (h : Host τ η) (lim : Limits τ η) : Prop :=
  ∀ window sound,
    h.Keeps lim (fun s => h.hasWindow s = window ∧ h.hasSound s = sound) ∧
      h.KeepsShown fun s => h.hasWindow s = window ∧ h.hasSound s = sound

namespace Stage

variable [TimeScale τ] {h : Host τ η} {lim : Limits τ η} {P : η → Prop} {s : Stage τ η}

lemma fault_next : (next h lim s).loop.machine.fault = s.loop.machine.fault := by
  obtain ⟨budget, left, l, rfl, hn⟩ | ⟨l, rfl, hn | ⟨m, hs, hn⟩⟩ |
    ⟨-, keypad, journal, host, running, schedule, hn⟩ := next_cases h lim s
  all_goals rw [hn]
  · obtain ⟨processor, journal, hm⟩ := l.machine.tick_state h
    rw [hm]
    rfl
  · rfl
  · obtain ⟨journal, he⟩ := Loop.endFrame_eq h m
    rw [he]
    obtain ⟨rfl, -⟩ | ⟨-, -, host, -, rfl⟩ := Loop.showScreen_ok h l.machine hs
    · rfl
    · rfl

variable {l : Loop τ η} {o : Outcome Failure (Loop τ η) Unit}

lemma keeps_turns {fuel : ℕ} (hk : h.Keeps lim P) (hf : h.KeepsShown P) (hp : P l.machine.host)
    (ho : Loop.turns h lim fuel l = some o) : P o.state.machine.host := by
  let Q (s : Stage τ η) : Prop := P s.loop.machine.host
  have hs : Leads h lim (poll l) (ended o) := leads_turns ho
  exact hs.invariant (Q := Q) (fun u hu => keeps_next hk (fun _ _ => hf) hu) hp

lemma fault_turns {fuel : ℕ} (ho : Loop.turns h lim fuel l = some o) :
    o.state.machine.fault = l.machine.fault := by
  let Q (s : Stage τ η) : Prop := s.loop.machine.fault = l.machine.fault
  have hs : Leads h lim (poll l) (ended o) := leads_turns ho
  exact hs.invariant (Q := Q) (fun u hu => fault_next.trans hu) rfl

end Stage

namespace Loop

variable (h : Host τ η) (o : Outcome Failure (Loop τ η) Unit)

lemma finish_fault (hn : o.state.machine.fault = none) (f : Fault) :
    (finish h o).state.fault = some f ↔ ∃ m, finish h o = .failed (.fault f) m := by
  cases o with
  | done u l =>
    have hf : (cleanUp h l.machine).fault = none := by
      rw [cleanUp_eq]
      exact hn
    constructor
    · intro hs
      cases hf.symm.trans hs
    · rintro ⟨m, ⟨⟩⟩
  | failed e l =>
    cases e with
    | fault g =>
      rw [finish, cleanUp_eq]
      constructor
      · rintro ⟨⟩
        exact ⟨_, rfl⟩
      · rintro ⟨m, ⟨⟩⟩
        rfl
    | _ =>
      have hf : (cleanUp h l.machine).fault = none := by
        rw [cleanUp_eq]
        exact hn
      constructor
      · intro hs
        cases hf.symm.trans hs
      · rintro ⟨m, ⟨⟩⟩

end Loop

lemma Host.shut_calls {h : Host τ η} {lim : Limits τ η} {window sound : Bool} {s : Recorded η}
    (hk : h.Keeps lim fun s => h.hasWindow s = window ∧ h.hasSound s = sound)
    (hs : h.hasWindow s.host = window ∧ h.hasSound s.host = sound) :
    (h.recorded.shut s).2.calls =
      s.calls ++ (if sound then [.sound false] else []) ++ if window then [.close] else [] := by
  obtain ⟨hw, ht⟩ := hs
  have hsound : h.recorded.hasSound s = sound := ht
  have hsilent : (h.recorded.silence s).calls =
      s.calls ++ if sound then [.sound false] else [] := by
    rw [silence, hsound]
    cases sound
    · exact (List.append_nil _).symm
    · rfl
  have hwindow : h.recorded.hasWindow (h.recorded.silence s) = window := by
    rw [silence]
    split
    · exact (hk.setSound false _ ⟨hw, ht⟩).1
    · exact hw
  rw [shut, hwindow, ← hsilent]
  cases window
  · exact (List.append_nil _).symm
  · rfl

lemma ScriptedHost.steady_host [TimeScale τ] {lim : Limits τ (ScriptedHost τ)}
    (hl : ∀ ask ∈ lim.shouldStop, ∃ script, ask = verdict script) : host.Steady lim := by
  intro window sound
  refine ⟨⟨fun s hs => hs, fun t s hs => hs, fun s hs => ?_, fun on s hs => ?_,
    fun ask ha p s hs => ?_⟩, fun f s s' hs hf => ?_⟩
  · have hp : s.pollWindow.2.window.isSome = s.window.isSome ∧
        s.pollWindow.2.beeps = s.beeps := by
      rw [pollWindow]
      cases hw : s.window with
      | none => exact ⟨congrArg Option.isSome hw, rfl⟩
      | some w =>
        dsimp only
        split <;> exact ⟨rfl, rfl⟩
    exact ⟨hp.1.trans hs.1, (congrArg Option.isSome hp.2).trans hs.2⟩
  · exact ⟨hs.1, Option.isSome_map.trans hs.2⟩
  · obtain ⟨script, rfl⟩ := hl ask ha
    exact hs
  · cases hf
    exact ⟨Option.isSome_map.trans hs.1, hs.2⟩

lemma Desktop.steady_host [TimeScale τ] (c : Option ℤ) :
    (host (τ := τ)).Steady ⟨c, none⟩ := by
  intro window sound
  refine ⟨⟨fun d hd => hd, fun t d hd => hd, fun d hd => hd, fun on d hd => ?_, nofun⟩,
    fun f d d' hd hf => ?_⟩
  · exact ⟨hd.1, Option.isSome_map.trans hd.2⟩
  · have hp : d.present f = .ok d' := hf
    rw [present] at hp
    split at hp
    · cases hp
      exact hd
    · rename_i w hw
      split at hp
      · cases hp
      · cases hp
        exact ⟨(congrArg Option.isSome hw).symm.trans hd.1, hd.2⟩

def Call.sound? : Call → Option Bool
  | sound on => some on
  | _ => none

namespace Machine

variable [TimeScale τ] {h : Host τ η} {lim : Limits τ η} {fuel : ℕ} {m : Machine τ η}
  {o : Outcome Failure (Machine τ η) ℕ}

def calls (h : Host τ η) (lim : Limits τ η) (fuel : ℕ) (m : Machine τ η) : List Call :=
  match m.recorded.run h.recorded lim.recorded fuel with
  | none => []
  | some o => o.state.host.calls

lemma run_recorded (hr : m.run h lim fuel = some o) :
    ∃ l : Outcome Failure (Loop τ (Recorded η)) Unit,
      Loop.turns h.recorded lim.recorded fuel (Loop.start h.recorded m.recorded) = some l ∧
        (Loop.finish h.recorded l).mapState bare = o ∧
        m.calls h lim fuel = (Loop.finish h.recorded l).state.host.calls := by
  have hb := bare_run h lim fuel m.recorded
  have hm : m.recorded.bare = m := rfl
  rw [hm, hr, run] at hb
  rw [calls, run]
  cases hl : Loop.turns h.recorded lim.recorded fuel (Loop.start h.recorded m.recorded) with
  | none =>
    rw [hl] at hb
    cases hb
  | some l =>
    rw [hl] at hb
    exact ⟨l, rfl, Option.some.inj hb, rfl⟩

lemma calls_of_run {window sound : Bool} (hh : h.Steady lim) (hr : m.run h lim fuel = some o)
    (hw : h.hasWindow m.host = window) (hs : h.hasSound m.host = sound) :
    ∃ before, .close ∉ before ∧ m.calls h lim fuel =
      before ++ (if sound then [.sound false] else []) ++ if window then [.close] else [] := by
  obtain ⟨l, hl, -, hc⟩ := run_recorded hr
  obtain ⟨hk, hf⟩ := hh window sound
  have hpoll (cs : List Call) (hc : .close ∉ cs) : .close ∉ cs ++ [.poll] := by simpa using hc
  have hsound (on : Bool) (cs : List Call) (hc : .close ∉ cs) : .close ∉ cs ++ [.sound on] := by
    simpa using hc
  have hpresent (f : Framebuffer) (cs : List Call) (hc : .close ∉ cs) :
      .close ∉ cs ++ [.present f] := by
    simpa using hc
  have hstart : (h.hasWindow (h.readClock m.host).2 = window ∧
      h.hasSound (h.readClock m.host).2 = sound) ∧ .close ∉ ([] : List Call) :=
    ⟨hk.readClock m.host ⟨hw, hs⟩, List.not_mem_nil⟩
  obtain ⟨hend, hclose⟩ :=
    Stage.keeps_turns (hk.recorded hpoll hsound) (hf.recorded hpresent) hstart hl
  obtain ⟨fault, journal, he⟩ := Loop.finish_state h.recorded l
  refine ⟨l.state.machine.host.calls, hclose, ?_⟩
  rw [hc, he]
  exact Host.shut_calls hk hend

/-- Whichever way a run is left, the machine stands still afterwards; the last that the sound is
told is to be silent; the window is closed once, and nothing is asked of it any more; and the fault
that the machine remembers is the one that ended this run, if one did. -/
theorem run_cleansUp (hh : h.Steady lim) (hr : m.run h lim fuel = some o) :
    o.state.running = false ∧
    (h.hasSound m.host = true →
      ((m.calls h lim fuel).filterMap Call.sound?).getLast? = some false) ∧
    (h.hasWindow m.host = true →
      ∃ before, m.calls h lim fuel = before ++ [.close] ∧ .close ∉ before) ∧
    ∀ f, o.state.fault = some f ↔ ∃ m', o = .failed (.fault f) m' := by
  refine ⟨?_, fun hs => ?_, fun hw => ?_, ?_⟩
  · obtain ⟨l, -, rfl⟩ := Option.map_eq_some_iff.mp hr
    obtain ⟨fault, journal, hf⟩ := Loop.finish_state h l
    rw [hf]
  · obtain ⟨before, -, hc⟩ := calls_of_run hh hr rfl hs
    rw [hc]
    cases h.hasWindow m.host <;> simp [Call.sound?, List.filterMap_cons]
  · obtain ⟨before, hb, hc⟩ := calls_of_run hh hr hw rfl
    refine ⟨before ++ if h.hasSound m.host then [.sound false] else [], hc, ?_⟩
    rw [List.mem_append]
    rintro (hm | hm)
    · exact hb hm
    · cases hs : h.hasSound m.host <;> simp [hs] at hm
  · obtain ⟨l, hl, rfl⟩ := Option.map_eq_some_iff.mp hr
    have hn : l.state.machine.fault = none := Stage.fault_turns hl
    exact Loop.finish_fault h l hn

theorem strayed_cleansUp :
    ∃ m, strayed.run ScriptedHost.host ⟨none, none⟩ 3 = some (.failed (.fault .stackUnderflow) m) ∧
      m.running = false ∧ m.fault = some .stackUnderflow ∧
      ((strayed.calls ScriptedHost.host ⟨none, none⟩ 3).filterMap Call.sound?).getLast? =
        some false ∧
      (∃ before, strayed.calls ScriptedHost.host ⟨none, none⟩ 3 = before ++ [.close] ∧
        .close ∉ before) ∧
      ∃ m', m.run ScriptedHost.host ⟨some 0, none⟩ 1 = some (.done 0 m') ∧ m'.fault = none := by
  have hh (c : Option ℤ) : (ScriptedHost.host (τ := ℚ)).Steady ⟨c, none⟩ :=
    ScriptedHost.steady_host nofun
  have ha : (strayed.run ScriptedHost.host ⟨none, none⟩ 3).map Outcome.answer =
      some (.error (.fault .stackUnderflow)) := by
    decide +kernel
  obtain ⟨o, ho, hv⟩ := Option.map_eq_some_iff.mp ha
  obtain ⟨m, rfl⟩ := Outcome.answer_eq_error.mp hv
  obtain ⟨hr, hs, hw, hf⟩ := run_cleansUp (hh none) ho
  refine ⟨m, ho, hr, (hf _).mpr ⟨m, rfl⟩, hs rfl, hw rfl, ?_⟩
  have ha' : ((strayed.run ScriptedHost.host ⟨none, none⟩ 3).bind fun o =>
      (o.state.run ScriptedHost.host ⟨some 0, none⟩ 1).map Outcome.answer) = some (.ok 0) := by
    decide +kernel
  rw [ho] at ha'
  obtain ⟨o', ho', hv'⟩ := Option.map_eq_some_iff.mp ha'
  obtain ⟨m', rfl⟩ := Outcome.answer_eq_ok.mp hv'
  obtain ⟨-, -, -, hf'⟩ := run_cleansUp (hh (some 0)) ho'
  refine ⟨m', ho', Option.eq_none_iff_forall_ne_some.mpr fun f hs => ?_⟩
  obtain ⟨_, ⟨⟩⟩ := (hf' f).mp hs

end Machine

end ChipEight
