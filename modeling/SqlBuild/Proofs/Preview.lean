import SqlBuild.Proofs.Orderly
import SqlBuild.Rehearsal.MemoryServer

/-!
# A preview leaves the server alone

What an orderly run may ask of the server is a parameter of it. One that may ask nothing only tells
the user something and looks at the token (`Exec.Orderly.only_sparesServer`), and what stands on the
server is then as it was (`Run.exec_of_spares`). In preview every runner is of this kind, to
whatever depth a build goes and whatever its lines start (`preview_leaves_server`).
-/

namespace SqlBuild

/-- Whether an action is no matter of the server. -/
def Action.sparesServer (action : Action) : Bool := action.toUser || action == .poll

/-- `server` shows of a host what messages to the user and looks at the token do not change. -/
def Host.Spares {σ τ : Type} (host : Host σ) (server : σ → τ) : Prop :=
  ∀ action s, action.sparesServer = true → server (host.answer action s).2 = server s

theorem Run.exec_of_spares {σ τ α : Type} {host : Host σ} {server : σ → τ}
    (hhost : host.Spares server) : ∀ (r : Run α) (s : σ),
      (∀ e ∈ r.trace host s, e.action.sparesServer = true) → server (r.exec host s).2 = server s
  | .done _, _, _ => rfl
  | .ask action next, s, h => by
    rw [trace, List.forall_mem_cons] at h
    rw [exec_ask, exec_of_spares hhost _ _ h.2]
    exact hhost action s h.1

/-- A run that may ask nothing of the server leaves it alone. -/
theorem Exec.Orderly.only_sparesServer {α : Type} {x : Exec α} (h : Orderly (fun _ => False) x) :
    x.Only (·.sparesServer = true) := by
  induction h with
  | tell only _ => exact only_ofRun (only.mono fun action hu => by simp [Action.sparesServer, hu])
  | poll => exact only_checkCancelled rfl
  | bind _ _ ihFirst ihNext => exact ihFirst.bind ihNext
  | session _ allowed _ => exact allowed.elim
  | attempt _ passes _ ihWork ihHandled =>
    intro events result hp e he
    obtain ⟨r, before, after, rfl, hb, ha⟩ := plays_lift_bind hp
    rcases List.mem_append.1 he with he | he
    · exact ihWork _ _ hb e he
    by_cases hr : r = .error .cancelled
    · subst hr
      rw [passes] at ha
      obtain ⟨rfl, -⟩ := ha
      cases he
    · exact ihHandled r hr _ _ ha e he

def Runner.isPreview : Runner → Bool
  | script vars | inlineSql vars | build vars | upgrade vars => vars.preview
  | compiler _ => false

theorem Runner.orderly_of_preview (ctx : Context) {runner : Runner}
    (h : runner.isPreview = true) : Exec.Orderly (fun _ => False) (runner.run ctx) := by
  have hreal : ∀ {vars : RunVariables} {P : Prop}, vars.preview = true → vars.preview = false → P :=
    fun hp hreal => by simp [hp] at hreal
  cases runner with
  | script vars => exact Script.orderly_run (hreal h)
  | inlineSql vars => exact Inline.orderly_run (hreal h)
  | build vars => exact Build.orderly_run (hreal h)
  | upgrade vars => exact Upgrade.orderly_run (hreal h)
  | compiler kind => cases h

/-- A preview of whatever kind tells the user something and looks at the token, and does nothing
else: it opens no session, and sends no batch, call or load. Whatever part of its surroundings the
messages and the looks leave as it is, the preview leaves as it is. -/
theorem preview_leaves_server (ctx : Context) (runner : Runner)
    (hpreview : runner.isPreview = true) :
    (∀ events result, (runner.run ctx).Plays events result →
      ∀ e ∈ events, e.action.toUser = true ∨ e.action = .poll) ∧
    ∀ {σ τ : Type} (host : Host σ) (server : σ → τ), host.Spares server →
      ∀ s, server ((runner.run ctx).run.exec host s).2 = server s := by
  have honly := (runner.orderly_of_preview ctx hpreview).only_sparesServer
  refine ⟨fun events result hp e he => ?_, fun host server hhost s => ?_⟩
  · simpa [Action.sparesServer] using honly events result hp e he
  · exact Run.exec_of_spares hhost _ s (honly _ _ (Run.plays_exec host _ s))

open Rehearsal

/-- What a server in memory holds, and what it was asked. -/
def Rehearsal.MemoryServer.contents (server : MemoryServer) :
    List Table × List Text × Option Text × List Asked :=
  (server.tables, server.applied, server.database, server.log)

theorem Rehearsal.MemoryServer.spares_contents : MemoryServer.host.Spares contents := by
  intro action server h
  cases action with
  | print text =>
    dsimp only [MemoryServer.host]
    split <;> rfl
  | poll | warn _ => rfl
  | _ => cases h

/-- A build with an upgrade in a nested script, a compiler, and a script for two databases. -/
def oneOfEach : Context :=
  let env : Environment :=
    { name := "dev", host := "dbhost", port := none, user := "sa", password := "secret",
      platform := .mssql, company := "101", language := "1", root := "/sql", rawMode := false,
      named := true }
  { env
    options := { env, maxAge := 0 }
    files := { entries := [
      (["tmp"], .directory),
      (["outer"], .file (Utf8.encode
        "runcreate /inner\nimport_options\nrunsql /a.sql -Dmain -Dreport -F1 -L2\n") 0),
      (["inner"], .file (Utf8.encode "i_run_upgrade /sct_1.sql\n") 0),
      (["sct_1.sql"], .file (Utf8.encode
        "use main\ncreate\ngo\nsp_renametoold x\nrunsql /a.sql !\n") 0),
      (["a.sql"], .file (Utf8.encode "insert @sequence@\ngo\n") 0)] } }

/-- The preview writes what would be sent, and the server keeps its table and its empty log. -/
theorem preview_leaves_server_oneOfEach :
    let runner : Runner := .build { source := "/outer", preview := true, changelog := true }
    let server : MemoryServer := { tables := [{ name := "t", rows := [["x"]] }] }
    let after := ((runner.run oneOfEach).run.exec MemoryServer.host server).2
    runner.isPreview = true ∧ MemoryServer.host.Spares MemoryServer.contents ∧
      after.contents = server.contents ∧ after.printed.length = 9 := by
  intro runner server after
  have hafter := (preview_leaves_server oneOfEach runner rfl).2 MemoryServer.host
    MemoryServer.contents MemoryServer.spares_contents server
  exact ⟨rfl, MemoryServer.spares_contents, hafter, by decide +kernel⟩

end SqlBuild
