-- The life of a call. Whatever happens in the course of a history, a call is on only while a voice
-- run goes on, a chat is never told by voice, and a voice run that is over was hung up last of all.
import Dialogue.Proofs.Run.Treads

namespace Dialogue

/-! ## What is told on the phone -/

/-- The log of a call that has not been hung up, from its dialing on, with the time at which the call
connected. -/
inductive Run.PhoneLog (lab : Lab) (r : Run) : Option Int → List Event → Prop
  | dialed {started : Event} (hstarted : started.notice = Session.callStarted) :
      PhoneLog lab r none [started]
  | connected {started connected : Event} {talk : List Event}
      (hstarted : started.notice = Session.callStarted)
      (hconnected : connected.notice = Session.callConnected)
      (htalk : ∀ e ∈ talk, e.notice.IsHangUp → r.Echoes lab e.notice) :
      PhoneLog lab r (some connected.time) (started :: connected :: talk)

/-- The last event is the end of the call, and it tells how long the call was. A call that never
connected had no length. The length stands still. -/
structure Run.IsHungUp (lab : Lab) (r : Run) (connectedAt : Option Int) (before : List Event)
    (last : Event) (span : Int) : Prop where
  log : r.events.toList = before ++ [last]
  phone : r.PhoneLog lab connectedAt before
  notice : last.notice = Session.callEnded span
  length : span = connectedAt.elim 0 (last.time - ·)
  frozen : ∀ now, r.callSpan now = span

/-- What a run keeps to in whatever happens. -/
structure Run.KeepsCalls (lab : Lab) (r : Run) : Prop where
  on : r.onCall = true → r.channel = some .voice ∧ r.state ≠ .idle ∧ r.state ≠ .ended
  chat : r.channel = some .chat → ∀ e ∈ r.events.toList, e.notice.speaker ≠ .voice
  ended : ∀ f, r.channel = some .voice → r.flow = some f → f.startNode?.isSome = true →
    r.state = .ended → ∃ connectedAt before last span, r.IsHungUp lab connectedAt before last span ∧
      ∀ e ∈ before, e.notice.IsHangUp → r.Echoes lab e.notice

namespace Run

variable {lab : Lab} {r r' : Run}

theorem PhoneLog.push {connectedAt : Int} {log : List Event}
    (h : r.PhoneLog lab (some connectedAt) log) {e : Event}
    (he : e.notice.IsHangUp → r.Echoes lab e.notice) :
    r.PhoneLog lab (some connectedAt) (log ++ [e]) := by
  cases h with
  | @connected started connected talk hstarted hconnected htalk =>
    have hmore : ∀ x ∈ talk ++ [e], x.notice.IsHangUp → r.Echoes lab x.notice := by
      intro x hx
      rcases List.mem_append.mp hx with hx | hx
      · exact htalk x hx
      · rw [List.mem_singleton.mp hx]
        exact he
    exact .connected hstarted hconnected hmore

theorem PhoneLog.of_flow {connectedAt : Option Int} {log : List Event}
    (h : r.PhoneLog lab connectedAt log) (hflow : r'.flow = r.flow) :
    r'.PhoneLog lab connectedAt log := by
  cases h with
  | dialed hstarted => exact .dialed hstarted
  | connected hstarted hconnected htalk =>
    refine .connected hstarted hconnected fun e he hhang => ?_
    obtain ⟨n, ⟨f, hf, hmem⟩, hn⟩ := htalk e he hhang
    exact ⟨n, ⟨f, hflow.trans hf, hmem⟩, hn⟩

theorem not_isHangUp_of_speaker {n : Notice} (h : n.speaker ≠ .voice) : ¬ n.IsHangUp := by
  rintro ⟨span, rfl⟩
  exact h rfl

theorem not_isHangUp_started : ¬ Session.callStarted.IsHangUp := by
  rintro ⟨span, hspan⟩
  cases congrArg Notice.mark hspan

theorem not_isHangUp_connected : ¬ Session.callConnected.IsHangUp := by
  rintro ⟨span, hspan⟩
  have hcontent := congrArg Notice.content hspan
  simp only [Session.callConnected, Session.callEnded, Json.str.injEq] at hcontent
  have hletter := congrArg (fun s : String => s.toList[5]?) hcontent
  simp [String.toList_append] at hletter

/-- Only the words of an effect can read like the end of a call that is still on. -/
theorem PhoneLog.echoes {connectedAt : Option Int} {log : List Event}
    (h : r.PhoneLog lab connectedAt log) :
    ∀ e ∈ log, e.notice.IsHangUp → r.Echoes lab e.notice := by
  intro e he hhang
  cases h with
  | dialed hstarted =>
    rw [List.mem_singleton.mp he, hstarted] at hhang
    exact absurd hhang not_isHangUp_started
  | connected hstarted hconnected htalk =>
    rcases List.mem_cons.mp he with rfl | he
    · rw [hstarted] at hhang
      exact absurd hhang not_isHangUp_started
    · rcases List.mem_cons.mp he with rfl | he
      · rw [hconnected] at hhang
        exact absurd hhang not_isHangUp_connected
      · exact htalk e he hhang

/-! ## The life of a call -/

/-- Where the call of a run is in its life. -/
inductive CallLife (lab : Lab) (r : Run) : Prop
  | blank (h : r = {})
  | lost (hstart : ∀ f, r.flow = some f → f.startNode? = none) (hstate : r.state = .ended)
      (hoff : r.onCall = false) (hlog : ∀ e ∈ r.events.toList, e.notice.speaker = .error)
  | chats (hchannel : r.channel = some .chat) (hoff : r.onCall = false)
      (hlog : ∀ e ∈ r.events.toList, e.notice.speaker ≠ .voice)
  | dials (h : r.IsDialing) (hlog : r.PhoneLog lab none r.events.toList)
  | talks (hchannel : r.channel = some .voice) (hstate : r.isOver = false) (hon : r.onCall = true)
      {connectedAt : Int} (hat : r.connectedAt = some connectedAt)
      (hlog : r.PhoneLog lab (some connectedAt) r.events.toList)
  | hungUp (hchannel : r.channel = some .voice) (hstate : r.state = .ended)
      (hoff : r.onCall = false) {connectedAt : Option Int} {before : List Event} {last : Event}
      {span : Int} (h : r.IsHungUp lab connectedAt before last span)

/-- A run that is going chats or is on a call. -/
theorem CallLife.of_going (h : r.CallLife lab) (hgoing : r.IsGoing) :
    (r.channel = some .chat ∧ r.onCall = false ∧
        ∀ e ∈ r.events.toList, e.notice.speaker ≠ .voice) ∨
      r.channel = some .voice ∧ r.onCall = true ∧ ∃ connectedAt, r.connectedAt = some connectedAt ∧
        r.PhoneLog lab (some connectedAt) r.events.toList := by
  have hstate := hgoing.state
  cases h with
  | blank h =>
    rw [h] at hstate
    cases hstate
  | lost hstart hended hoff hlog =>
    rw [isOver, hended] at hstate
    cases hstate
  | chats hchannel hoff hlog => exact Or.inl ⟨hchannel, hoff, hlog⟩
  | dials h hlog =>
    have hon := hgoing.onCall
    rw [h.onCall, h.channel] at hon
    cases hon
  | talks hchannel hopen hon hat hlog => exact Or.inr ⟨hchannel, hon, _, hat, hlog⟩
  | hungUp hchannel hended hoff h =>
    rw [isOver, hended] at hstate
    cases hstate

theorem CallLife.of_dialing (h : r.CallLife lab) (hdialing : r.IsDialing) :
    r.PhoneLog lab none r.events.toList := by
  cases h with
  | blank h =>
    have hstate := hdialing.state
    rw [h] at hstate
    cases hstate
  | lost hstart hended hoff hlog => cases hended.symm.trans hdialing.state
  | chats hchannel hoff hlog => cases hchannel.symm.trans hdialing.channel
  | dials h hlog => exact hlog
  | talks hchannel hopen hon hat hlog => cases hon.symm.trans hdialing.onCall
  | hungUp hchannel hended hoff h => cases hended.symm.trans hdialing.state

/-- A going run stays on its channel and on its call while it is told something that does not read
like the end of a call. -/
theorem CallLife.goesOn (h : r.CallLife lab) (hgoing : r.IsGoing) {e : Event}
    (hevents : r'.events = r.events.push e) (hstate : r'.isOver = false)
    (hchannel : r'.channel = r.channel) (hcall : r'.onCall = r.onCall)
    (hat : r'.connectedAt = r.connectedAt) (hflow : r'.flow = r.flow)
    (hvoice : e.notice.speaker = .voice → r.channel = some .voice)
    (hhang : e.notice.IsHangUp → r.Echoes lab e.notice) : r'.CallLife lab := by
  rcases h.of_going hgoing with ⟨hchat, hoff, hlog⟩ | ⟨hphone, hon, connectedAt, hsome, hlog⟩
  · refine .chats (hchannel.trans hchat) (hcall.trans hoff) fun x hx => ?_
    rw [hevents, Log.toList_push] at hx
    rcases List.mem_append.mp hx with hx | hx
    · exact hlog x hx
    · rw [List.mem_singleton.mp hx]
      intro h
      cases hchat.symm.trans (hvoice h)
  · refine .talks (hchannel.trans hphone) hstate (hcall.trans hon) (hat.trans hsome) ?_
    rw [hevents, Log.toList_push]
    exact (hlog.push hhang).of_flow hflow

/-- Hanging up ends the life of a call, whether it had connected or not. -/
theorem callLife_hungUp {connectedAt : Option Int} (hchannel : r.channel = some .voice)
    (hlog : r.PhoneLog lab connectedAt r.events.toList) (id : String) (now : Int)
    (hspan : r.callSpan now = connectedAt.elim 0 (now - ·)) (result : RunResult) :
    ((r.hungUp id now).finished now result).CallLife lab := by
  have hlast : ((r.hungUp id now).finished now result).IsHungUp lab connectedAt r.events.toList
      ⟨id, now, Session.callEnded (r.callSpan now)⟩ (r.callSpan now) :=
    ⟨Log.toList_push _ _, hlog.of_flow rfl, rfl, hspan, fun _ => rfl⟩
  exact .hungUp hchannel rfl rfl hlast

theorem callSpan_on {connectedAt : Int} (hon : r.onCall = true)
    (hat : r.connectedAt = some connectedAt) (now : Int) : r.callSpan now = now - connectedAt := by
  rw [callSpan, hon, hat]

theorem callSpan_off (hoff : r.onCall = false) (now : Int) : r.callSpan now = r.callLength := by
  rw [callSpan, hoff]

/-- Every deed leaves the call somewhere in its life. -/
theorem Deed.callLife (hdeed : Deed lab r r') (h : r.CallLife lab) : r'.CallLife lab := by
  cases hdeed with
  | tells hgoing he =>
    exact h.goesOn hgoing rfl hgoing.state rfl rfl rfl rfl he.voice he.hangUp
  | fails hgoing he =>
    have hspeaker := ne_of_eq_of_ne he (by decide : Speaker.error ≠ .voice)
    exact h.goesOn hgoing rfl hgoing.state rfl rfl rfl rfl (fun hvoice => absurd hvoice hspeaker)
      fun hhang => absurd hhang (not_isHangUp_of_speaker hspeaker)
  | arrives hgoing n hmore he =>
    have hspeaker := ne_of_eq_of_ne he (by decide : Speaker.system ≠ .voice)
    exact h.goesOn hgoing rfl hgoing.state rfl rfl rfl rfl (fun hvoice => absurd hvoice hspeaker)
      fun hhang => absurd hhang (not_isHangUp_of_speaker hspeaker)
  | counts hgoing hroom =>
    rcases h.of_going hgoing with ⟨hchat, hoff, hlog⟩ | ⟨hphone, hon, connectedAt, hat, hlog⟩
    · exact .chats hchat hoff hlog
    · exact .talks hphone hgoing.state hon hat (hlog.of_flow rfl)
  | turns hgoing waiting hstate =>
    rcases h.of_going hgoing with ⟨hchat, hoff, hlog⟩ | ⟨hphone, hon, connectedAt, hat, hlog⟩
    · exact .chats hchat hoff hlog
    · refine .talks hphone ?_ hon hat (hlog.of_flow rfl)
      simp [isOver, hstate]
  | ends hgoing id now hresult =>
    rcases h.of_going hgoing with ⟨hchat, hoff, hlog⟩ | ⟨hphone, hon, connectedAt, hat, hlog⟩
    · rw [hungUpIfOn, hoff, if_neg Bool.false_ne_true]
      exact .chats hchat hoff hlog
    · rw [hungUpIfOn, if_pos hon]
      exact callLife_hungUp hphone hlog id now (callSpan_on hon hat now) _
  | hangsUp hphase hvoice id now =>
    rcases hphase with hdialing | hgoing
    · refine callLife_hungUp (r := { r with waiting := none }) hvoice
        ((h.of_dialing hdialing).of_flow rfl) id now ?_ _
      exact (callSpan_off hdialing.onCall now).trans hdialing.callLength
    · rcases h.of_going hgoing with ⟨hchat, hoff, hlog⟩ | ⟨hphone, hon, connectedAt, hat, hlog⟩
      · cases hchat.symm.trans hvoice
      · exact callLife_hungUp (r := { r with waiting := none }) hphone (hlog.of_flow rfl) id now
          (callSpan_on hon hat now) _
  | clears => exact .blank rfl
  | loses hnone channel id now =>
    refine .lost ?_ rfl rfl ?_
    · intro g hg
      cases hg
      exact hnone
    · intro e he
      rw [List.mem_singleton.mp he]
      rfl
  | dials hstart id now =>
    exact .dials ⟨rfl, rfl, rfl, rfl, rfl, Nat.le_refl _⟩ (.dialed rfl)
  | opens hstart id now =>
    refine .chats rfl rfl fun e he => ?_
    rw [List.mem_singleton.mp he]
    simp [Session.sessionStarted]
  | connects hdialing id now =>
    have hlog := h.of_dialing hdialing
    have hopen : r.isOver = false := by simp [isOver, hdialing.state]
    let connected : Event := ⟨id, now, Session.callConnected⟩
    have hevents : (r.told connected).events.toList = r.events.toList ++ [connected] :=
      Log.toList_push _ _
    have hphone : r.PhoneLog lab (some now) (r.events.toList ++ [connected]) := by
      generalize r.events.toList = log at hlog
      cases hlog with
      | dialed hstarted =>
        have hnothing : ∀ e ∈ ([] : List Event), e.notice.IsHangUp → r.Echoes lab e.notice :=
          fun e he => absurd he List.not_mem_nil
        have hconnected : connected.notice = Session.callConnected := rfl
        exact .connected hstarted hconnected hnothing
    rw [← hevents] at hphone
    exact .talks hdialing.channel hopen rfl rfl (hphone.of_flow rfl)

/-- Wherever a call is in its life, the run keeps to the rules of calls. -/
theorem CallLife.keepsCalls (h : r.CallLife lab) : r.KeepsCalls lab := by
  cases h with
  | blank h =>
    subst h
    constructor
    case on => intro hon; cases hon
    case chat => intro hchat; cases hchat
    case ended => intro f hvoice; cases hvoice
  | lost hstart hstate hoff hlog =>
    constructor
    case on => intro hon; cases hoff.symm.trans hon
    case chat =>
      intro hchat e he
      rw [hlog e he]
      simp
    case ended =>
      intro f hvoice hf hsome
      rw [hstart f hf] at hsome
      cases hsome
  | chats hchannel hoff hlog =>
    constructor
    case on => intro hon; cases hoff.symm.trans hon
    case chat => exact fun _ => hlog
    case ended => intro f hvoice; cases hchannel.symm.trans hvoice
  | dials h hlog =>
    constructor
    case on => intro hon; cases h.onCall.symm.trans hon
    case chat => intro hchat; cases h.channel.symm.trans hchat
    case ended => intro f hvoice hf hsome hended; cases h.state.symm.trans hended
  | talks hchannel hstate hon hat hlog =>
    rw [isOver, Bool.or_eq_false_iff, beq_eq_false_iff_ne, beq_eq_false_iff_ne] at hstate
    constructor
    case on => exact fun _ => ⟨hchannel, hstate⟩
    case chat => intro hchat; cases hchannel.symm.trans hchat
    case ended => intro f hvoice hf hsome hended; exact absurd hended hstate.2
  | hungUp hchannel hstate hoff h =>
    constructor
    case on => intro hon; cases hoff.symm.trans hon
    case chat => intro hchat; cases hchannel.symm.trans hchat
    case ended => intro f hvoice hf hsome hended; exact ⟨_, _, _, _, h, h.phone.echoes⟩

end Run

namespace Bench

/-- At every point of every history the run keeps to the rules of calls. -/
theorem every_call_is_hung_up_once_and_last (lab : Lab) (dice : Dice)
    (history : List (Moment × Happening)) :
    ((fresh dice).replay lab history).session.run.KeepsCalls lab := by
  obtain ⟨hdeeds, -⟩ := replay_does (fits_fresh lab dice) history
  have hlife : ((fresh dice).replay lab history).session.run.CallLife lab :=
    hdeeds.keep (fun hdeed h => hdeed.callLife h) (.blank rfl)
  exact hlife.keepsCalls

/-- A call that is hung up a minute after it has connected. -/
theorem a_call_of_a_minute_is_told_at_its_end :
    let history : List (Moment × Happening) :=
      [(newYear, .start askingFlow .voice), (⟨2000000, by decide⟩, .wake 0),
        (⟨67000000, by decide⟩, .endCall)]
    let r := ((fresh {}).replay usualLab history).session.run
    r.channel = some .voice ∧ r.state = .ended ∧ r.callSpan 0 = 65000000 ∧
      r.events.toList.map (·.notice.content.text) = ["Initiating voice call...", "Call connected",
        "▶️ Start: ", "Call ended (01:05)"] ∧ r.KeepsCalls usualLab := by
  intro history r
  refine ⟨by decide +kernel, by decide +kernel, by decide +kernel, by decide +kernel, ?_⟩
  exact every_call_is_hung_up_once_and_last usualLab {} history

end Bench

end Dialogue
