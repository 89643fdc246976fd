import TrackerGate.Proofs.Access.Standing

/-!
# More privilege passes more checks

Two comparisons of what checks let through. The first is between nobody in particular and
whoever it may be, and it holds for all readers: what is open to nobody in particular is
open to everybody, since it has no owner, and nothing is ever managed by nobody. The
second is between two contents of the tables. If no project or issue is missing from the
second and somebody stands in every team at least as before (`Rows.Covers`), every standing
that the checks ask for is kept.
-/

namespace TrackerGate

/-! ## Nobody in particular -/

namespace Access

variable {r : Readers}

theorem readProject_of_anonymous {id : ProjectId}
    (h : readProject r .anonymous id = .ok ()) (ctx : Context) :
    readProject r ctx id = .ok () := by
  obtain ⟨p, hp, hsuper | hteam | ⟨team, -, user, huser, -⟩⟩ := readProject_eq_ok_iff.mp h
  · cases hsuper
  · exact readProject_eq_ok_iff.mpr ⟨p, hp, .inr (.inl hteam)⟩
  · cases huser

theorem manageProject_anonymous_ne_ok {id : ProjectId} {issueWork : Bool} :
    manageProject r .anonymous id issueWork ≠ .ok () := by
  intro h
  obtain ⟨p, -, hsuper | ⟨-, -, user, huser⟩ | ⟨team, -, user, huser, -⟩⟩ :=
    manageProject_eq_ok_iff.mp h
  · cases hsuper
  · cases huser
  · cases huser

theorem readIssue_of_anonymous {id : IssueId}
    (h : readIssue r .anonymous id = .ok ()) (ctx : Context) : readIssue r ctx id = .ok () := by
  rcases readIssue_eq_ok_iff.mp h with hsuper | ⟨i, hi, hread⟩
  · cases hsuper
  · exact readIssue_eq_ok_iff.mpr (.inr ⟨i, hi, readProject_of_anonymous hread ctx⟩)

theorem manageIssue_anonymous_ne_ok {id : IssueId} : manageIssue r .anonymous id ≠ .ok () := by
  intro h
  rcases manageIssue_eq_ok_iff.mp h with hsuper | ⟨i, -, hmanage⟩
  · cases hsuper
  · exact manageProject_anonymous_ne_ok hmanage

end Access

/-! ## Higher standing -/

theorem Role.canManage_of_le {role role' : Role} (h : role ≤ role')
    (hmanages : role.canManage = true) : role'.canManage = true := by
  revert hmanages h
  cases role <;> cases role' <;> decide

namespace Rows

/-- Behind `r'` are all projects and issues of `r`, and whoever asks with `ctx'` has in every
team at least the role that whoever asks with `ctx` has behind `r`. -/
structure Covers (r : Rows) (ctx : Context) (r' : Rows) (ctx' : Context) : Prop where
  projects : r.projects ⊆ r'.projects
  issues : r.issues ⊆ r'.issues
  user : ∀ user, ctx.user = some user → ctx'.user = some user
  superuser : ctx.isSuperuser = true → ctx'.isSuperuser = true
  role : ∀ user, ctx.user = some user → ∀ role team, r.Holds user role team →
    ∃ role', r'.Holds user role' team ∧ role ≤ role'

namespace Covers

variable {r r' : Rows} {ctx ctx' : Context} (h : r.Covers ctx r' ctx')

include h

theorem isMember {team : TeamId} (hmember : r.IsMember ctx team) : r'.IsMember ctx' team := by
  obtain ⟨user, huser, role, hholds⟩ := hmember
  obtain ⟨role', hholds', -⟩ := h.role user huser role team hholds
  exact ⟨user, h.user user huser, role', hholds'⟩

theorem leads {team : TeamId} (hleads : r.Leads ctx team) : r'.Leads ctx' team := by
  obtain ⟨user, huser, hrole⟩ := hleads
  obtain ⟨role, hholds, hmanages⟩ := exists_canManage_iff.mpr hrole
  obtain ⟨role', hholds', hle⟩ := h.role user huser role team hholds
  exact ⟨user, h.user user huser,
    exists_canManage_iff.mp ⟨role', hholds', Role.canManage_of_le hle hmanages⟩⟩

theorem mayRead {id : ProjectId} (hmay : r.MayRead ctx id) : r'.MayRead ctx' id := by
  obtain ⟨p, hp, hid, hstanding⟩ := hmay
  refine ⟨p, h.projects hp, hid, ?_⟩
  rcases hstanding with hsuper | hteam | ⟨team, hteam, hmember⟩
  · exact .inl (h.superuser hsuper)
  · exact .inr (.inl hteam)
  · exact .inr (.inr ⟨team, hteam, h.isMember hmember⟩)

theorem mayManage {id : ProjectId} (hmay : r.MayManage ctx id) : r'.MayManage ctx' id := by
  obtain ⟨p, hp, hid, hstanding⟩ := hmay
  refine ⟨p, h.projects hp, hid, ?_⟩
  rcases hstanding with hsuper | ⟨team, hteam, hleads⟩
  · exact .inl (h.superuser hsuper)
  · exact .inr ⟨team, hteam, h.leads hleads⟩

theorem mayWorkOn {id : ProjectId} (hmay : r.MayWorkOn ctx id) : r'.MayWorkOn ctx' id := by
  obtain ⟨p, hp, hid, hstanding⟩ := hmay
  refine ⟨p, h.projects hp, hid, ?_⟩
  rcases hstanding with hsuper | ⟨hteam, user, huser⟩ | ⟨team, hteam, hmember⟩
  · exact .inl (h.superuser hsuper)
  · exact .inr (.inl ⟨hteam, user, h.user user huser⟩)
  · exact .inr (.inr ⟨team, hteam, h.isMember hmember⟩)

theorem mayReadIssue {id : IssueId} (hmay : r.MayReadIssue ctx id) : r'.MayReadIssue ctx' id := by
  rcases hmay with hsuper | ⟨i, hi, hid, hread⟩
  · exact .inl (h.superuser hsuper)
  · exact .inr ⟨i, h.issues hi, hid, h.mayRead hread⟩

theorem mayWorkOnIssue {id : IssueId} (hmay : r.MayWorkOnIssue ctx id) :
    r'.MayWorkOnIssue ctx' id := by
  rcases hmay with hsuper | ⟨i, hi, hid, hwork⟩
  · exact .inl (h.superuser hsuper)
  · exact .inr ⟨i, h.issues hi, hid, h.mayWorkOn hwork⟩

end Covers

end Rows

end TrackerGate
