import NplLifecycle.Proofs.Lifecycle.Dealing
import NplLifecycle.Proofs.Session.Over

/-!
# Parted clients

Of every client that the controller neither has, starts nor stops, nothing is left: its session is
over.  The controller never takes up such a client again, so its session stays over in every run and
does nothing more.
-/

namespace NplLifecycle

namespace Lifecycle

/-- The session of a client is over as soon as its stop has ended, and wherever the controller has
no hold on the client. -/
structure Parted (lifecycle : Lifecycle) (client : ClientId) : Prop where
  led : ∀ session, lifecycle.sessions.lookup client = some session → session.Led
  told : lifecycle.Stopped client → ∀ session,
    lifecycle.sessions.lookup client = some session → session.Over
  ended : ∀ session, lifecycle.sessions.lookup client = some session →
    session.Over ∨ lifecycle.controller.Engages client

/-- The session of a client is over, and the controller has no hold on the client. -/
structure Gone (lifecycle : Lifecycle) (client : ClientId) : Prop where
  ended : ∃ session, lifecycle.sessions.lookup client = some session ∧ session.Over
  free : ¬lifecycle.controller.Engages client

section Parting

variable {before after : Lifecycle} {move : Move} {effects : List Effect} {client : ClientId}
  {dealt : List Session.Effect}

theorem isStopped_of_reportOf? {effect : Session.Effect} {result : Except ClientError Unit}
    (hreport : reportOf? effect = some (.stopped result)) : effect = .stopped result := by
  cases effect with
  | stopped told => rw [Report.stopped.inj (Option.some.inj hreport)]
  | started told => exact absurd (Option.some.inj hreport) (by simp)
  | connect asker => simp [reportOf?] at hreport
  | write connection message => simp [reportOf?] at hreport
  | hangUp connection => simp [reportOf?] at hreport
  | take connection => simp [reportOf?] at hreport
  | consult event decision => simp [reportOf?] at hreport
  | log line => simp [reportOf?] at hreport

/-- A move leaves the readers of a session led, and leaves nothing of one whose stop has ended. -/
theorem Parted.parts (hparted : before.Parted client) (htidy : before.Tidy)
    (hdeals : Deals before after client dealt) :
    ∀ session, after.sessions.lookup client = some session →
      session.Led ∧ ∀ result, .stopped result ∈ dealt → session.Over := by
  intro last hlast
  cases hdeals with
  | keep hsession htakes hlets =>
      exact ⟨hparted.led last (hsession.symm.trans hlast), by simp⟩
  | evolve hsession hevolves hcontroller hafter =>
      have hparts := hevolves.parts (htidy.sole client _ hsession) (hparted.led _ hsession)
      rw [← Option.some.inj (hafter.symm.trans hlast)]
      exact ⟨hparts.led, hparts.ended⟩
  | @close around session hsession hclient hengages hafter =>
      have hparts : Session.Parts (session.beginStop around) :=
        Session.parts_beginStop (htidy.sole client session hsession) (hparted.led session hsession)
      rw [← Option.some.inj (hafter.symm.trans hlast)]
      exact ⟨hparts.led, hparts.ended⟩
  | drop hsession hengages hidle hafter =>
      have hover := Session.over_abandon (htidy.sole client _ hsession)
        (hparted.led _ hsession) hidle
      rw [← Option.some.inj (hafter.symm.trans hlast)]
      exact ⟨hover.led, fun _ _ => hover⟩
  | make hnew hengages hafter =>
      rw [← Option.some.inj (hafter.symm.trans hlast)]
      exact ⟨Session.led_of_not_isReading (by simp [Session.beginStart, Session.fresh]), by simp⟩

/-- What is over stays so, and where the controller lets go of a client, its session is over. -/
theorem Parted.ended_after (hparted : before.Parted client) (htidy : before.Tidy)
    (hdeals : Deals before after client dealt) :
    ∀ session, after.sessions.lookup client = some session →
      session.Over ∨ after.controller.Engages client := by
  intro last hlast
  cases hdeals with
  | keep hsession htakes hlets =>
      rw [hsession] at hlast
      rcases hparted.ended last hlast with hover | hengages
      · exact Or.inl hover
      · rcases hlets last hlast hengages with hstays | hstopped
        · exact Or.inr hstays
        · exact Or.inl (hparted.told hstopped last hlast)
  | evolve hsession hevolves hcontroller hafter =>
      rw [← Option.some.inj (hafter.symm.trans hlast), hcontroller]
      exact (hparted.ended _ hsession).imp_left fun hover => (hevolves.over hover).1
  | close hsession hclient hengages hafter => exact Or.inr hengages
  | drop hsession hengages hidle hafter =>
      rw [← Option.some.inj (hafter.symm.trans hlast)]
      exact Or.inl (Session.over_abandon (htidy.sole client _ hsession)
        (hparted.led _ hsession) hidle)
  | make hnew hengages hafter => exact Or.inr hengages

/-- A session whose stop had ended before a move is over after it. -/
theorem Parted.told_after (hparted : before.Parted client) (htidy : before.Tidy)
    (hdeals : Deals before after client dealt) (hstopped : before.Stopped client) :
    ∀ session, after.sessions.lookup client = some session → session.Over := by
  intro last hlast
  cases hdeals with
  | keep hsession htakes hlets => exact hparted.told hstopped last (hsession.symm.trans hlast)
  | evolve hsession hevolves hcontroller hafter =>
      rw [← Option.some.inj (hafter.symm.trans hlast)]
      exact (hevolves.over (hparted.told hstopped _ hsession)).1
  | close hsession hclient hengages hafter =>
      obtain ⟨result, hmem⟩ := hstopped
      exact absurd hmem ((htidy.running client hclient).1 _)
  | drop hsession hengages hidle hafter =>
      rw [← Option.some.inj (hafter.symm.trans hlast)]
      exact Session.over_abandon (htidy.sole client _ hsession) (hparted.led _ hsession) hidle
  | make hnew hengages hafter =>
      obtain ⟨result, hmem⟩ := hstopped
      exact absurd (htidy.report_lt client _ hmem) (by simp [hnew])

/-- Every move keeps a client parted. -/
theorem Parted.step (hparted : before.Parted client) (htidy : before.Tidy)
    (hsound : before.controller.Sound) (hmove : before.next? move = some (after, effects)) :
    after.Parted client := by
  have hdeals := deals_of_next? htidy hsound hmove client
  have hparts := hparted.parts htidy hdeals
  refine ⟨fun session hlast => (hparts session hlast).1, ?_, hparted.ended_after htidy hdeals⟩
  rintro ⟨result, hmem⟩ session hlast
  rcases reporting_of_next? hsound hmove client _ hmem with hold | ⟨effect, heffect, hreport⟩
  · exact hparted.told_after htidy hdeals ⟨result, hold⟩ session hlast
  · rw [isStopped_of_reportOf? hreport] at heffect
    exact (hparts session hlast).2 result heffect

theorem parted_idle (options : Controller.Options) (client : ClientId) :
    (idle options).Parted client where
  led := fun _ hlookup => absurd hlookup (by simp [idle])
  told := fun _ _ hlookup => absurd hlookup (by simp [idle])
  ended := fun _ hlookup => absurd hlookup (by simp [idle])

/-- A client that is gone stays so, and its session does nothing. -/
theorem Gone.step (hgone : before.Gone client) (htidy : before.Tidy)
    (hsound : before.controller.Sound) (hmove : before.next? move = some (after, effects)) :
    after.Gone client ∧ dealings client effects = [] := by
  obtain ⟨session, hlookup, hover⟩ := hgone.ended
  have hdeals := deals_of_next? htidy hsound hmove client
  generalize dealings client effects = dealt at hdeals ⊢
  cases hdeals with
  | keep hsession htakes hlets =>
      exact ⟨⟨⟨session, hsession.trans hlookup, hover⟩, fun h => hgone.free (htakes h)⟩, rfl⟩
  | evolve hsession hevolves hcontroller hafter =>
      rw [← Option.some.inj (hlookup.symm.trans hsession)] at hevolves
      obtain ⟨hstays, hnothing⟩ := hevolves.over hover
      exact ⟨⟨⟨_, hafter, hstays⟩, hcontroller ▸ hgone.free⟩, hnothing⟩
  | close hsession hclient hengages hafter => exact absurd (Or.inl hclient) hgone.free
  | drop hsession hengages hidle hafter => exact absurd hengages hgone.free
  | make hnew hengages hafter =>
      exact absurd (htidy.session_lt client session hlookup) (by simp [hnew])

end Parting

section Lasting

variable {before after : Lifecycle} {moves : List Move} {effects : List Effect}
  {client : ClientId}

/-- What every run from the beginning keeps: the lifecycle is sound and tidy, and every client is
parted. -/
theorem parted_of_run (options : Controller.Options)
    (hrun : Run.follow next? (idle options) moves = some (after, effects)) :
    after.Sound ∧ after.Tidy ∧ ∀ client, after.Parted client := by
  refine Run.follow_induction
    (fun lifecycle _ => lifecycle.Sound ∧ lifecycle.Tidy ∧ ∀ client, lifecycle.Parted client)
    ⟨sound_idle options, tidy_idle options, parted_idle options⟩ ?_ hrun
  rintro before - move after effects - ⟨hsound, htidy, hparted⟩ hmove
  exact ⟨hsound.step hmove, htidy.step hsound.controller hmove,
    fun client => (hparted client).step htidy hsound.controller hmove⟩

/-- The session of a client that is gone does nothing in any run. -/
theorem Gone.run (hgone : before.Gone client) (hsound : before.Sound) (htidy : before.Tidy)
    (hrun : Run.follow next? before moves = some (after, effects)) :
    after.Gone client ∧ dealings client effects = [] := by
  have hholds := Run.follow_induction
    (fun lifecycle past => lifecycle.Sound ∧ lifecycle.Tidy ∧ lifecycle.Gone client ∧
      dealings client past = []) ⟨hsound, htidy, hgone, rfl⟩ ?_ hrun
  · exact hholds.2.2
  · rintro middle past move next more - ⟨hsound, htidy, hgone, hnothing⟩ hmove
    obtain ⟨hstays, hstill⟩ := hgone.step htidy hsound.controller hmove
    refine ⟨hsound.step hmove, htidy.step hsound.controller hmove, hstays, ?_⟩
    rw [dealings_append, hnothing, hstill]
    rfl

end Lasting

end Lifecycle

end NplLifecycle
