import Chip8.Device.Beeper
import Chip8.Device.Window

namespace Chip8.Device

/-! What is asked of the audio device. A beeper that has one starts the tone and stops it in
turn, so that its own note of whether it plays tells how far that has come; a beeper that has
none asks for nothing. -/

/-- The call is made on the audio device. -/
def Call.sounds : Call → Bool
  | .reserveAudio _ | .openAudio _ | .makeTone _ | .playTone _ | .stopTone => true
  | _ => false

/-- The call is made on the window. -/
def Call.draws : Call → Bool
  | .open _ _ _ | .caption _ | .flip | .fill _ _ | .alpha _ _ | .blit _ _ _ _ | .text _ _ _ |
    .show _ _ => true
  | _ => false

def soundCalls (calls : List Call) : List Call := calls.filter Call.sounds

/-- A tone that loops forever sounds until it is stopped. -/
def Call.leavesSounding (sounding : Bool) : Call → Bool
  | .playTone loops => loops == -1
  | .stopTone => false
  | _ => sounding

def sounding (calls : List Call) : Bool := calls.foldl Call.leavesSounding false

/-- The tone is started and stopped so many times. -/
def tones : Nat → List Call
  | 0 => []
  | count + 1 => tones count ++ [.playTone (-1), .stopTone]

@[simp] theorem soundCalls_append (first second : List Call) :
    soundCalls (first ++ second) = soundCalls first ++ soundCalls second :=
  List.filter_append ..

theorem Call.sounds_of_draws {call : Call} (draws : call.draws = true) : call.sounds = false := by
  cases call with
  | reserveAudio | openAudio | makeTone | playTone | stopTone => contradiction
  | _ => rfl

theorem soundCalls_of_draws {calls : List Call} (drawn : ∀ call ∈ calls, call.draws = true) :
    soundCalls calls = [] := by
  rw [soundCalls, List.filter_eq_nil_iff]
  intro call member sounds
  exact Bool.false_ne_true ((Call.sounds_of_draws (drawn call member)).symm.trans sounds)

theorem Call.leavesSounding_of_silent {call : Call} (silent : call.sounds = false)
    (before : Bool) : call.leavesSounding before = before := by
  cases call with
  | reserveAudio | openAudio | makeTone | playTone | stopTone => contradiction
  | _ => rfl

theorem sounding_soundCalls (calls : List Call) : sounding (soundCalls calls) = sounding calls := by
  have kept (before : Bool) (call : Call) :
      (if call.sounds then call.leavesSounding before else before) =
        call.leavesSounding before := by
    cases sounds : call.sounds with
    | true => rfl
    | false => exact (Call.leavesSounding_of_silent sounds before).symm
  simp only [sounding, soundCalls, List.foldl_filter, kept]

theorem sounding_tones (count : Nat) : sounding (tones count) = false := by
  cases count with
  | zero => rfl
  | succ count =>
      rw [sounding, tones, List.foldl_append]
      rfl

theorem sounding_started (count : Nat) : sounding (tones count ++ [.playTone (-1)]) = true := by
  rw [sounding, List.foldl_append]
  rfl

theorem getLast?_tones {count : Nat} {call : Call} (last : (tones count).getLast? = some call) :
    call = .stopTone := by
  cases count with
  | zero => contradiction
  | succ count =>
      rw [tones, List.getLast?_append] at last
      exact (Option.some_inj.mp last).symm

namespace Overlay

theorem draws_draw (overlay : Overlay) (font : Font) (lines : List String) :
    ∀ call ∈ overlay.draw font lines, call.draws = true := by
  intro call member
  rw [draw] at member
  split at member
  · contradiction
  · rcases List.mem_append.mp member with box | written
    · simp only [List.mem_cons, List.not_mem_nil, or_false] at box
      rcases box with rfl | rfl | rfl | rfl <;> rfl
    · obtain ⟨⟨line, index⟩, _, drawn⟩ := List.mem_flatMap.mp written
      simp only [List.mem_cons, List.not_mem_nil, or_false] at drawn
      rcases drawn with rfl | rfl <;> rfl

end Overlay

namespace Window

variable (window : Window)

theorem draws_clear : ∀ call ∈ window.clear, call.draws = true := by
  intro call member
  simp only [clear, List.mem_cons, List.not_mem_nil, or_false] at member
  rcases member with rfl | rfl <;> rfl

theorem draws_debugCalls (machine : Option Machine) :
    ∀ call ∈ window.debugCalls machine, call.draws = true := by
  cases machine with
  | none => exact List.forall_mem_nil _
  | some machine =>
      rw [debugCalls]
      split
      · exact debugOverlay.draws_draw _ _
      · exact List.forall_mem_nil _

variable {window}

/-- Whatever the scale, an update is a picture with the registers on top. -/
theorem exists_picture {display : Display} {machine : Option Machine} {calls : List Call}
    (updated : window.update display machine = .ok calls) :
    ∃ picture, calls = .show .window picture :: window.debugCalls machine ++ [.flip] := by
  simp only [update, bind, Except.bind, pure, Except.pure] at updated
  cases scaled : window.scale with
  | none => simp only [scaled, reduceCtorEq] at updated
  | some scale =>
      simp only [scaled] at updated
      split at updated
      · contradiction
      · split at updated
        · contradiction
        · exact ⟨_, (Except.ok.inj updated).symm⟩

theorem draws_update {display : Display} {machine : Option Machine} {calls : List Call}
    (updated : window.update display machine = .ok calls) :
    ∀ call ∈ calls, call.draws = true := by
  obtain ⟨picture, rfl⟩ := exists_picture updated
  intro call member
  rcases List.mem_append.mp member with shown | flipped
  · rcases List.mem_cons.mp shown with rfl | registers
    · rfl
    · exact window.draws_debugCalls machine call registers
  · rw [List.mem_singleton.mp flipped]
    rfl

end Window

/-- The audio device is open already, or nothing keeps it from being opened. -/
def Audio.Present (audio : Audio) : Prop := audio.current ≠ none ∨ audio.failure = none

namespace Beeper

/-- What a beeper remembers of all calls so far: none if it has no device, else whether the
last of them has left the tone on. -/
inductive Recalls : Beeper → List Call → Prop
  | mute {playing : Bool} {calls : List Call} (none : soundCalls calls = []) :
      Recalls ⟨false, playing⟩ calls
  | paused {calls : List Call} {count : Nat} (stopped : soundCalls calls = tones count) :
      Recalls ⟨true, false⟩ calls
  | playing {calls : List Call} {count : Nat}
      (started : soundCalls calls = tones count ++ [.playTone (-1)]) :
      Recalls ⟨true, true⟩ calls

variable {beeper : Beeper} {calls : List Call}

theorem recalls_nil (resting : beeper.playing = false) : beeper.Recalls [] := by
  obtain ⟨audible, playing⟩ := beeper
  cases resting
  cases audible with
  | true => exact @Recalls.paused _ 0 rfl
  | false => exact .mute rfl

theorem Recalls.append (recalls : beeper.Recalls calls) {others : List Call}
    (silent : soundCalls others = []) : beeper.Recalls (calls ++ others) := by
  have same : soundCalls (calls ++ others) = soundCalls calls := by
    rw [soundCalls_append, silent, List.append_nil]
  cases recalls with
  | mute none => exact .mute (same.trans none)
  | paused stopped => exact .paused (same.trans stopped)
  | playing started => exact .playing (same.trans started)

theorem Recalls.play (recalls : beeper.Recalls calls) :
    beeper.play.1.Recalls (calls ++ beeper.play.2) := by
  cases recalls with
  | mute none => exact .append (.mute none) rfl
  | paused stopped => exact .playing (by rw [soundCalls_append, stopped]; rfl)
  -- A tone that plays is not started again.
  | playing started => exact .append (.playing started) rfl

theorem Recalls.pause (recalls : beeper.Recalls calls) :
    beeper.pause.1.Recalls (calls ++ beeper.pause.2) := by
  cases recalls with
  | mute none => exact .append (.mute none) rfl
  | paused stopped => exact .append (.paused stopped) rfl
  | @playing calls count started =>
      refine @Recalls.paused _ (count + 1) ?_
      rw [soundCalls_append, started, List.append_assoc]
      rfl

theorem Recalls.none (recalls : beeper.Recalls calls) (mute : beeper.audible = false) :
    soundCalls calls = [] := by
  cases recalls with
  | mute none => exact none
  | paused | playing => contradiction

theorem Recalls.inTurn (recalls : beeper.Recalls calls) (audible : beeper.audible = true) :
    ∃ count, soundCalls calls = tones count ++ if beeper.playing then [.playTone (-1)] else [] := by
  cases recalls with
  | mute => contradiction
  | @paused calls count stopped => exact ⟨count, stopped.trans (List.append_nil _).symm⟩
  | @playing calls count started => exact ⟨count, started⟩

theorem Recalls.sounding (recalls : beeper.Recalls calls) (audible : beeper.audible = true) :
    sounding calls = beeper.playing := by
  obtain ⟨count, made⟩ := recalls.inTurn audible
  rw [← sounding_soundCalls, made]
  cases beeper.playing with
  | true => exact sounding_started count
  | false => exact (congrArg _ (List.append_nil _)).trans (sounding_tones count)

def follow (beeper : Beeper) (active : Bool) : Beeper × List Call :=
  if active then beeper.play else beeper.pause

theorem follow_playing (beeper : Beeper) (active : Bool) :
    (beeper.follow active).1.playing = active := by
  cases active with
  | true => rfl
  | false => rfl

theorem follow_audible (beeper : Beeper) (active : Bool) :
    (beeper.follow active).1.audible = beeper.audible := by
  cases active with
  | true => rfl
  | false => rfl

theorem Recalls.follow (recalls : beeper.Recalls calls) (active : Bool) :
    (beeper.follow active).1.Recalls (calls ++ (beeper.follow active).2) := by
  cases active with
  | true => exact recalls.play
  | false => exact recalls.pause

theorem withFormat_ok {room : Nat} {opening : List Call} {frequency : Sound.Amount}
    {format : AudioFormat}
    (made : (withFormat room opening frequency format).beeper = .ok beeper) :
    beeper = ⟨true, false⟩ := by
  rw [withFormat] at made
  split at made
  · contradiction
  · exact (Except.ok.inj made).symm

/-- A new beeper does not play, and has a device if there is one. -/
theorem create_ok {room : Nat} {audio : Audio} {frequency : Sound.Amount} {rate : Int}
    (made : (create room audio frequency rate).beeper = .ok beeper) :
    beeper.playing = false ∧ (beeper.audible = true ↔ audio.Present) := by
  rw [create] at made
  split at made
  · rename_i format found
    rw [withFormat_ok made]
    exact ⟨rfl, iff_of_true rfl (.inl (found ▸ Option.some_ne_none format))⟩
  · rename_i missing
    dsimp only at made
    split at made
    · rename_i reason failed
      rw [← Except.ok.inj made]
      refine ⟨rfl, iff_of_false Bool.false_ne_true ?_⟩
      rintro (found | opened)
      · exact found missing
      · exact Option.some_ne_none reason (failed.symm.trans opened)
    · rename_i opened
      rw [withFormat_ok made]
      exact ⟨rfl, iff_of_true rfl (.inr opened)⟩

/-- A device that opens in the format that is wanted of it lets the tone sound, if there is
room for its samples. -/
theorem create_standard {room : Nat} (fits : Capacity.Fits room (8 * Sound.defaultRate)) :
    (create room {} Sound.defaultFrequency Sound.defaultRate).beeper = .ok ⟨true, false⟩ := by
  have counted : Sound.sampleCount room 44100 = .ok 44100 := by
    change (Capacity.checkBytes room (8 * Sound.defaultRate)).map _ = _
    rw [Capacity.checkBytes_of_fits fits]
    rfl
  obtain ⟨samples, wave⟩ : ∃ samples,
      Sound.squareWave room Sound.defaultFrequency 44100 Sound.defaultVolume = .ok samples := by
    rw [Sound.squareWave, counted]
    exact ⟨_, rfl⟩
  have tone : toneFor room Sound.defaultFrequency ⟨44100, -16, 1⟩ = .ok ⟨samples, 1⟩ := by
    rw [toneFor, wave]
    rfl
  change (withFormat room _ _ ⟨44100, -16, 1⟩).beeper = _
  rw [withFormat, tone]

end Beeper

end Chip8.Device
