import Failsafe.Server.TwoFactor
import Failsafe.Server.Unauthorized

/-!
The handler of a refresh gives the answers that the tokens of an account allow.
-/

namespace Failsafe.Server

open Failsafe.Core Failsafe.Lib

variable {ext : Externals} {isolation : Isolation}

section Handler

variable {log : Log}

theorem Stale.mono {raw : String} {log' : Log} (h : Stale ext raw log) (hlog : log <+: log') :
    Stale ext raw log' := by
  rcases h with hnone | ⟨record, hrecord, hwhy⟩
  · exact .inl (hnone.mono hlog)
  · refine .inr ⟨record, hrecord.mono hlog, ?_⟩
    rcases hwhy with hrevoked | ⟨time, hnow, hexpires⟩ | haccount
    · exact .inl hrevoked
    · exact .inr (.inl ⟨time, hlog.subset hnow, hexpires⟩)
    · exact .inr (.inr (haccount.mono hlog))

theorem refresh_renews {request : AuthRefreshRequest} (hlog : ¬Committed log) :
    Handles anything (refresh ext request)
      (fun response log' => ∃ before, log' = before ++ [⟨.commit, .ok ()⟩] ∧ ¬Committed before ∧
        trimmed request.refreshToken ≠ "" ∧
        Renews ext (trimmed request.refreshToken) response before)
      (fun error log' => ¬Committed log' ∧
        (error.statusCode = .internalServerError ∨
          error.statusCode = .badRequest ∧ trimmed request.refreshToken = "" ∨
          error.statusCode = .unauthorized ∧ Stale ext (trimmed request.refreshToken) log'))
      log := by
  refine .ite (fun hempty => .bind (.throw ⟨hlog, .inr (.inl ⟨rfl, ?_⟩)⟩)) fun hraw =>
    .withTransaction (fun _ => ⟨(committed_snoc (by simp)).not.mpr hlog, .inl rfl⟩) ?_
  · simpa using hempty
  have htouches : (rotateInTransaction ext (trimmed request.refreshToken)).run.All
      (Touches [.write .txn .update .refreshToken, .write .txn .insert .refreshToken]) :=
    rotateInTransaction_touches (by decide) (by decide)
  have hbegun : ¬Committed (log ++ [⟨.begin, .ok ()⟩]) := (committed_snoc (by simp)).not.mpr hlog
  refine (Handles.uncommitted (rotateInTransaction_handles (fun _ _ _ => trivial)
    fun _ _ => trivial) htouches (by decide) hbegun).mono ?_ ?_
  · rintro response log' ⟨hrenews, hlog'⟩
    refine ⟨trivial, ⟨log', rfl, hlog', by simpa using hraw, hrenews⟩, fun message => ⟨?_, .inl rfl⟩⟩
    simpa [Committed] using hlog'
  · rintro error log' ⟨hwhy, hlog'⟩
    refine ⟨(committed_snoc (by simp)).not.mpr hlog', hwhy.imp_right fun hstale => .inr ?_⟩
    exact ⟨hstale.1, hstale.2.mono (List.prefix_append _ _)⟩

end Handler

section Tables

variable {tables tables' : Tables} {clock : Timestamp} {raw : String} {record new : RefreshToken}

theorem RotatesRow.works_iff (h : RotatesRow record new tables tables')
    (haccounts : tables'.account = tables.account) (hunique : tables.Unique)
    (hrecord : hashToken ext (trimmed raw) ≠ record.tokenHash)
    (hnew : hashToken ext (trimmed raw) ≠ new.tokenHash) :
    RefreshWorks ext tables' clock raw ↔ RefreshWorks ext tables clock raw := by
  obtain ⟨time, hrows⟩ := h.rows
  have hrow (row : RefreshToken) (hhash : row.tokenHash = hashToken ext (trimmed raw)) :
      row ∈ tables'.refreshToken ↔ row ∈ tables.refreshToken := by
    rw [hrows]
    constructor
    · intro hmem
      rcases List.mem_append.mp hmem with hold | hlast
      · obtain ⟨row', hmem', rfl⟩ := List.mem_map.mp hold
        split at hhash
        · rename_i hid
          obtain rfl := List.inj_on_of_nodup_map hunique.refreshTokenId hmem' h.found hid
          exact (hrecord hhash.symm).elim
        · rename_i hid
          rwa [if_neg hid]
      · obtain rfl := List.mem_singleton.mp hlast
        exact (hnew hhash.symm).elim
    · intro hmem
      refine List.mem_append_left _ (List.mem_map.mpr ⟨row, hmem, if_neg ?_⟩)
      intro hid
      obtain rfl := List.inj_on_of_nodup_map hunique.refreshTokenId hmem h.found hid
      exact hrecord hhash.symm
  simp only [RefreshWorks, haccounts]
  refine and_congr_right fun _ => exists_congr fun row => ?_
  constructor
  · rintro ⟨hmem, hhash, hrest⟩
    exact ⟨(hrow row hhash).mp hmem, hhash, hrest⟩
  · rintro ⟨hmem, hhash, hrest⟩
    exact ⟨(hrow row hhash).mpr hmem, hhash, hrest⟩

theorem RotatesRow.spent (h : RotatesRow record new tables tables') (hunique : tables'.Unique)
    (hraw : hashToken ext (trimmed raw) = record.tokenHash) :
    ¬RefreshWorks ext tables' clock raw := by
  rintro ⟨-, row, hmem, hhash, hvalid, -⟩
  have hrevoked := h.revoked
  rw [← hraw, ← hhash] at hrevoked
  exact hrevoked.not_valid hunique hmem hvalid

theorem RotatesRow.renewed (h : RotatesRow record new tables tables')
    (haccounts : tables'.account = tables.account) (htrimmed : trimmed raw ≠ "")
    (hraw : new.tokenHash = hashToken ext (trimmed raw)) (hexpires : clock ≤ new.expiresAt)
    (haccount : ∃ account ∈ tables.account, account.id = record.accountId) :
    RefreshWorks ext tables' clock raw := by
  obtain ⟨time, hrows⟩ := h.rows
  refine ⟨htrimmed, new, by simp [hrows], hraw, h.new_valid, hexpires, ?_⟩
  rw [haccounts, h.account]
  exact haccount

end Tables

/-- The tokens of an account, as the tables of the server have them at a time. -/
structure Issuer.Describes (ext : Externals) (issuer : Issuer) (tables : Tables)
    (clock : Timestamp) : Prop where
  issued : ∀ raw ∈ issuer.issued,
    ∃ row ∈ tables.refreshToken, row.tokenHash = hashToken ext (trimmed raw)
  apart : ∀ raw ∈ issuer.issued, ∀ raw' ∈ issuer.issued,
    hashToken ext (trimmed raw) = hashToken ext (trimmed raw') → raw = raw'
  live : ∀ raw, raw ∈ issuer.live ↔ raw ∈ issuer.issued ∧ RefreshWorks ext tables clock raw
  accepted : ∀ token ∈ issuer.accepted, ∃ accountId, AccessWorks ext tables clock token accountId

section Described

variable {issuer : Issuer} {tables tables' : Tables} {clock clock' : Timestamp}
  {raw newRaw token : String} {record new : RefreshToken}

theorem refreshWorks_lasts (hclock : clock ≤ clock')
    (hlasts : ∀ row ∈ tables.refreshToken, clock ≤ row.expiresAt → clock' ≤ row.expiresAt) :
    RefreshWorks ext tables clock' raw ↔ RefreshWorks ext tables clock raw := by
  refine and_congr_right fun _ => exists_congr fun row => and_congr_right fun hmem => ?_
  refine and_congr_right fun _ => and_congr_right fun _ => and_congr_left fun _ => ?_
  exact ⟨hclock.trans, hlasts row hmem⟩

theorem Issuer.Describes.lasts (h : issuer.Describes ext tables clock) (hclock : clock ≤ clock')
    (hlasts : ∀ row ∈ tables.refreshToken, clock ≤ row.expiresAt → clock' ≤ row.expiresAt)
    (haccess : ∀ token ∈ issuer.accepted, ∀ claims, ext.openJwt token = some claims →
      clock / SECOND ≤ claims.exp + LEEWAY → clock' / SECOND ≤ claims.exp + LEEWAY) :
    issuer.Describes ext tables clock' where
  issued := h.issued
  apart := h.apart
  live raw := by rw [h.live, refreshWorks_lasts hclock hlasts]
  accepted := by
    intro token htoken
    obtain ⟨accountId, hworks⟩ := h.accepted token htoken
    obtain ⟨claims, hopen, hpending, haccount, htime⟩ := hworks.opens
    exact ⟨accountId, ⟨claims, hopen, hpending, haccount, haccess token htoken claims hopen htime⟩,
      hworks.present⟩

theorem Issuer.Describes.rotated (h : issuer.Describes ext tables clock)
    (hrotates : RotatesRow record new tables tables')
    (haccounts : tables'.account = tables.account) (hunique : tables.Unique)
    (hunique' : tables'.Unique) (hlive : raw ∈ issuer.live)
    (hraw : record.tokenHash = hashToken ext (trimmed raw))
    (hnewRaw : trimmed newRaw = newRaw ∧ newRaw ≠ "")
    (hnew : new.tokenHash = hashToken ext newRaw) (hexpires : clock ≤ new.expiresAt)
    (htoken : token ≠ "")
    (haccess : ∃ accountId, AccessWorks ext tables' clock token accountId) :
    ∃ issuer', issuer.rotate raw token newRaw = some issuer' ∧
      issuer'.Describes ext tables' clock := by
  obtain ⟨hissued, hworks⟩ := (h.live raw).mp hlive
  -- the row of a token that was issued is not the new one
  have hold (raw' : String) (hraw' : raw' ∈ issuer.issued) :
      hashToken ext (trimmed raw') ≠ new.tokenHash := by
    obtain ⟨row, hmem, hhash⟩ := h.issued raw' hraw'
    rw [← hhash]
    exact (hrotates.fresh row hmem).2
  have hfresh : newRaw ∉ issuer.issued := by
    intro hmem
    refine hold newRaw hmem ?_
    rw [hnewRaw.1, hnew]
  have hhash : new.tokenHash = hashToken ext (trimmed newRaw) := by rw [hnewRaw.1, hnew]
  have haccount : ∃ account ∈ tables.account, account.id = record.accountId := by
    obtain ⟨-, row, hmem, hrow, -, -, haccount⟩ := hworks
    obtain rfl := List.inj_on_of_nodup_map hunique.tokenHash hmem hrotates.found
      (hrow.trans hraw.symm)
    exact haccount
  refine ⟨_, if_pos ⟨hlive, hfresh, htoken, hnewRaw.2⟩, ⟨?_, ?_, ?_, ?_⟩⟩
  · obtain ⟨time, hrows⟩ := hrotates.rows
    intro raw' hraw'
    rcases List.mem_cons.mp hraw' with rfl | hraw'
    · exact ⟨new, by simp [hrows], hhash⟩
    · obtain ⟨row, hmem, hrow⟩ := h.issued raw' hraw'
      refine ⟨_, hrows ▸ List.mem_append_left _ (List.mem_map_of_mem hmem), ?_⟩
      split <;> exact hrow
  · intro first hfirst second hsecond hsame
    rcases List.mem_cons.mp hfirst with rfl | hfirst' <;>
      rcases List.mem_cons.mp hsecond with rfl | hsecond'
    · rfl
    · exact (hold second hsecond' (hsame.symm.trans hhash.symm)).elim
    · exact (hold first hfirst' (hsame.trans hhash.symm)).elim
    · exact h.apart first hfirst' second hsecond' hsame
  · intro raw'
    simp only [List.mem_cons, List.mem_filter, decide_eq_true_eq]
    by_cases hsame : raw' = newRaw
    · subst hsame
      simp [hrotates.renewed haccounts (by rw [hnewRaw.1]; exact hnewRaw.2) hhash hexpires haccount]
    by_cases hspent : raw' = raw
    · subst hspent
      simp [hsame, hrotates.spent hunique' hraw.symm]
    · simp only [hsame, hspent, false_or, not_false_eq_true, and_true, ne_eq]
      rw [h.live raw']
      refine and_congr_right fun hraw' => (hrotates.works_iff haccounts hunique ?_ ?_).symm
      · exact fun hother => hspent (h.apart raw' hraw' raw hissued (hother.trans hraw))
      · exact hold raw' hraw'
  · intro token' htoken'
    rcases List.mem_cons.mp htoken' with rfl | htoken'
    · exact haccess
    · obtain ⟨accountId, hworks⟩ := h.accepted token' htoken'
      exact ⟨accountId, hworks.opens, by rw [haccounts]; exact hworks.present⟩

end Described

/-- No token runs out while a request is served, which takes less time than a new one lives. -/
structure Lasting {τ : Type} (ext : Externals) (issuer : Issuer) (state state' : ServerState τ) :
    Prop where
  quick : state'.clock ≤ state.clock + TOKEN_TTL * SECOND
  refresh : ∀ row ∈ state.database.committed.refreshToken,
    state.clock ≤ row.expiresAt → state'.clock ≤ row.expiresAt
  access : ∀ token ∈ issuer.accepted, ∀ claims, ext.openJwt token = some claims →
    state.clock / SECOND ≤ claims.exp + LEEWAY → state'.clock / SECOND ≤ claims.exp + LEEWAY

/-- What the answer to a refresh shows of the server. -/
def HttpResponse.readiness (response : HttpResponse) : Readiness :=
  if response = rateLimited then .limited
  else if response.status = .internalServerError then .failing
  else .ready

section Served

variable {τ : Type} [DecidableEq τ] {task : τ} {state state' middle : ServerState τ} {log : Log}
  {request : AuthRefreshRequest} {raw : String} {issuer : Issuer}

theorem Passes.refresh_kept (h : Passes ext isolation task state log state')
    (hidle : state.database.pending task = none)
    (htouches : ∀ exchange ∈ log,
      Touches (Call.publicly (.refresh request)).effects exchange.request)
    (hlog : ¬Committed log) : state'.database.committed = state.database.committed := by
  refine h.relates hidle (R := fun tables tables' => tables' = tables) (fun _ => rfl)
    (fun _ _ _ h₁ h₂ => h₂.trans h₁) ?_
  intro conn statement result hmem hcommitted result' tables tables' hrun
  cases conn with
  | txn => exact (hlog (hcommitted rfl)).elim
  | db =>
      have hwrites := htouches _ hmem
      cases statement with
      | findAccount | findAccountByEmail | findDevice | listActiveDevices | findPairingCode
      | findPairingCodeByCode | findRecoveryCode | findRefreshToken | findRefreshTokenByHash =>
          exact run_read rfl hrun
      | _ => simp [Touches, Call.effects, Statement.writes] at hwrites

theorem Passes.refresh_saw (h : Passes ext isolation task state log state')
    (hidle : state.database.pending task = none)
    (htouches : ∀ exchange ∈ log,
      Touches (Call.publicly (.refresh request)).effects exchange.request)
    (hlog : ¬Committed log) {statement : Statement} {result : statement.Result}
    (hsaw : Saw log statement result) (hread : statement.isWrite = false) :
    statement.run state.database.committed = .ok (result, state.database.committed) := by
  obtain ⟨before, middle, hbefore, hpasses, hrun⟩ := h.saw hidle hsaw hread
  have hkept := hpasses.refresh_kept hidle
    (fun exchange hmem => htouches exchange (hbefore.subset hmem))
    fun hcommitted => hlog (hcommitted.mono hbefore)
  rwa [hkept] at hrun

theorem Passes.stale_dead (h : Passes ext isolation task state log state')
    (hidle : state.database.pending task = none)
    (htouches : ∀ exchange ∈ log,
      Touches (Call.publicly (.refresh request)).effects exchange.request)
    (hlog : ¬Committed log) (hunique : state.database.committed.Unique)
    (hstale : Stale ext (trimmed raw) log) :
    ¬RefreshWorks ext state.database.committed state'.clock raw := by
  rintro ⟨-, row, hrow, hhash, hvalid, hexpires, account, haccount, hid⟩
  rcases hstale with hnone | ⟨record, hrecord, hwhy⟩
  · have hfind := h.refresh_saw hidle htouches hlog hnone rfl
    have hother := List.find?_eq_none.mp (Prod.mk.inj (Except.ok.inj hfind)).1 row hrow
    simp [hhash] at hother
  have hfind := (Prod.mk.inj (Except.ok.inj (h.refresh_saw hidle htouches hlog hrecord rfl))).1
  have hsame : record.tokenHash = row.tokenHash := by
    rw [hhash]
    simpa using List.find?_some hfind
  obtain rfl := List.inj_on_of_nodup_map hunique.tokenHash (List.mem_of_find?_eq_some hfind) hrow
    hsame
  rcases hwhy with hrevoked | ⟨time, hnow, hlate⟩ | hgone
  · exact hrevoked hvalid
  · exact Nat.not_le.mpr hlate ((h.clock.2 time hnow).2.trans hexpires)
  · have hlook := h.refresh_saw hidle htouches hlog hgone rfl
    have hother := List.find?_eq_none.mp (Prod.mk.inj (Except.ok.inj hlook)).1 account haccount
    simp [hid] at hother

theorem trimmed_hex {text : String} (h : isWord "0123456789abcdef".toList 64 text = true) :
    trimmed text = text ∧ text ≠ "" := by
  simp only [isWord, Bool.and_eq_true, beq_iff_eq] at h
  have hblank : ∀ ch ∈ text.toList, ¬isWhitespace ch = true := by
    intro ch hmem
    have hhex := List.all_eq_true.mp h.2 ch hmem
    have hall : ∀ ch ∈ "0123456789abcdef".toList, ¬isWhitespace ch = true := by
      simp [isWhitespace]
    exact hall ch (by simpa using hhex)
  have htrim : trim text.toList = text.toList := by
    rw [trim_eq, List.dropWhile_eq_self_iff.mpr, List.rdropWhile_eq_self_iff.mpr]
    · exact fun hne => hblank _ (List.getLast_mem hne)
    · exact fun hlength => hblank _ (List.getElem_mem hlength)
  refine ⟨by rw [trimmed, htrim, String.ofList_toList], ?_⟩
  rintro rfl
  simp at h

theorem Passes.generated (h : Passes ext isolation task state log state')
    (hmem : ⟨.generateRawToken, raw⟩ ∈ log) :
    isWord "0123456789abcdef".toList 64 raw = true := by
  obtain ⟨before, after, rfl⟩ := List.append_of_mem hmem
  obtain ⟨first, second, -, hperform, -⟩ := h.split
  exact (Option.ite_none_right_eq_some.mp hperform).1

theorem Passes.renewed {response : AuthResponse} {before : Log}
    (h : Passes ext isolation task state (before ++ [⟨.commit, .ok ()⟩]) state')
    (hidle : state.database.pending task = none)
    (htouches : ∀ exchange ∈ before,
      Touches (Call.publicly (.refresh request)).effects exchange.request)
    (hlog : ¬Committed before) (hrenews : Renews ext raw response before) :
    ∃ record new newRaw token claims, response = .authenticated token newRaw ∧
      record.tokenHash = hashToken ext raw ∧
      RotatesRow record new state.database.committed state'.database.committed ∧
      state'.database.committed.account = state.database.committed.account ∧
      (∃ account ∈ state.database.committed.account, account.id = record.accountId) ∧
      (trimmed newRaw = newRaw ∧ newRaw ≠ "") ∧ new.tokenHash = hashToken ext newRaw ∧
      state.clock ≤ record.expiresAt ∧ state.clock + REFRESH_TOKEN_TTL ≤ new.expiresAt ∧
      ext.openJwt token = some claims ∧ claims.mfaPending = none ∧
      claims.accountId = .ok ⟨record.accountId⟩ ∧
      state.clock / SECOND + TOKEN_TTL ≤ claims.exp := by
  obtain ⟨record, new, newRaw, token, claims,
    ⟨account, time, revokedAt, count, record', row, hpending,
    hvalid, hnow, hexpires, haccount, hnew, hcreated, hend⟩, rfl, hhash, hrecord,
      ⟨account', hfound⟩,
    hraw, hsigned, hsub, hmfa, iat, hiat, hexp⟩ := hrenews
  obtain ⟨middle, hbefore, hperform⟩ := h.last
  obtain ⟨database, hcommit, rfl⟩ := perform_commit hperform
  obtain ⟨entries, committed, hentries, hreplay, rfl⟩ := Database.commit_ok hcommit
  rw [hbefore.pending hidle] at hentries
  obtain rfl := Option.some.inj (hentries.symm.trans hpending)
  rw [hbefore.refresh_kept hidle htouches hlog] at hreplay
  have hread := (Prod.mk.inj (Except.ok.inj
    (hbefore.refresh_saw hidle htouches hlog hrecord rfl))).1
  have hlook := (Prod.mk.inj (Except.ok.inj
    (hbefore.refresh_saw hidle htouches hlog hfound rfl))).1
  obtain ⟨hrow, hrotates, haccounts⟩ := replay_rotates hreplay hvalid haccount hnew
    (.inr ⟨by simpa using List.find?_some hread, List.mem_of_find?_eq_some hread⟩)
  have htimes := hbefore.clock.2
  refine ⟨record, new, newRaw, token, claims, rfl, hrow, hrotates, haccounts,
    ⟨account', List.mem_of_find?_eq_some hlook, by simpa using List.find?_some hlook⟩,
    trimmed_hex (hbefore.generated hraw), hhash, (htimes time hnow).1.trans hexpires, ?_,
    hbefore.signed hsigned, hmfa, claims_accountId hsub, ?_⟩
  · rw [hend]
    exact Nat.add_le_add_right (htimes _ hcreated).1 _
  · rw [hexp]
    exact Nat.add_le_add_right (Nat.div_le_div_right (htimes iat hiat).1) _

/-- A refresh that is served alone gets one of the answers that the tokens of its account
allow, and leaves them as that answer says. -/
theorem serve_refresh_agrees {response : HttpResponse}
    (h : Performs ext isolation task (serve ext (.publicly (.refresh request))) state log response
      state')
    (hidle : state.database.pending task = none) (hunique : state.database.committed.Unique)
    (hdescribes : issuer.Describes ext state.database.committed state.clock)
    (hissued : request.refreshToken ∈ issuer.issued) (hlasting : Lasting ext issuer state state')
    (hempty : ext.openJwt "" = none) :
    ∃ issuer', issuer.serve response.readiness (.publicly (.refresh request)) response =
        some issuer' ∧
      issuer'.Describes ext state'.database.committed state'.clock := by
  have hclock := (Passes.exec .nil h).clock.1
  have hlasts := hdescribes.lasts hclock hlasting.refresh hlasting.access
  have hunique' := (Passes.exec .nil h).unique hunique
  obtain ⟨first, second, middle, rfl, hfirst, hlooks, ⟨rfl, rfl, rfl⟩ | hrun⟩ :=
    serve_publicly_cases h
  · refine ⟨issuer, by simp [HttpResponse.readiness, Issuer.serve, Issuer.serveRefresh], ?_⟩
    rwa [hfirst.looked hidle hlooks]
  have htables := hfirst.looked hidle hlooks
  have hmiddle := hfirst.pending hidle
  rw [pendingAfter_looks hlooks] at hmiddle
  have hhandled : Handles anything (handlePublic ext (.refresh request)) (fun response log' =>
      ∃ body, response = json (.auth body) ∧ ∃ before, log' = before ++ [⟨.commit, .ok ()⟩] ∧
        ¬Committed before ∧ trimmed request.refreshToken ≠ "" ∧
        Renews ext (trimmed request.refreshToken) body before) _ [] :=
    .bind ((refresh_renews List.not_mem_nil).mono (fun body _ hbody => .pure ⟨body, rfl, hbody⟩)
      fun _ _ => id)
  have htouches : (handlePublic ext (.refresh request)).run.All
      (Touches (Call.publicly (.refresh request)).effects) :=
    handle_touches ext (.publicly (.refresh request))
  rcases finish_inv hrun with halone | ⟨error, halone, rfl⟩
  · obtain ⟨body, rfl, before, rfl, hlog, hne, hrenews⟩ := Prog.Ensures.told hhandled halone
    have htouched := Prog.Exec.all halone htouches
    obtain ⟨record, new, newRaw, token, claims, rfl, hrow, hrotates, haccounts, haccount, hnewRaw,
      hhash, hexpires, hlong, hopen, hmfa, hclaims, hexp⟩ := halone.passes.renewed hmiddle
        (fun exchange hmem => htouched exchange (List.mem_append_left _ hmem)) hlog hrenews
    rw [htables] at hrotates haccounts haccount
    have hstart := hfirst.clock.1
    have hlive : request.refreshToken ∈ issuer.live :=
      (hdescribes.live _).mpr ⟨hissued, hne, record, hrotates.found, hrow, hrotates.valid,
        hstart.trans hexpires, haccount⟩
    have htoken : token ≠ "" := by
      rintro rfl
      rw [hempty] at hopen
      cases hopen
    have hend : state'.clock ≤ new.expiresAt :=
      calc state'.clock
        _ ≤ state.clock + TOKEN_TTL * SECOND := hlasting.quick
        _ ≤ middle.clock + REFRESH_TOKEN_TTL := Nat.add_le_add hstart (by decide)
        _ ≤ new.expiresAt := hlong
    have hseconds : state'.clock / SECOND ≤ claims.exp + LEEWAY :=
      calc state'.clock / SECOND
        _ ≤ (state.clock + TOKEN_TTL * SECOND) / SECOND := Nat.div_le_div_right hlasting.quick
        _ = state.clock / SECOND + TOKEN_TTL := Nat.add_mul_div_right _ _ (by decide)
        _ ≤ middle.clock / SECOND + TOKEN_TTL :=
          Nat.add_le_add_right (Nat.div_le_div_right hstart) _
        _ ≤ claims.exp + LEEWAY := hexp.trans (Nat.le_add_right _ _)
    have hworks : AccessWorks ext state'.database.committed state'.clock token
        ⟨record.accountId⟩ :=
      ⟨⟨claims, hopen, by simp [hmfa], hclaims, hseconds⟩, by rwa [haccounts]⟩
    obtain ⟨issuer', hrotate, hdescribed⟩ := hlasts.rotated hrotates haccounts hunique hunique'
      hlive hrow hnewRaw hhash hend htoken ⟨_, hworks⟩
    exact ⟨issuer', hrotate, hdescribed⟩
  · obtain ⟨hlog, hwhy⟩ := halone.handles hhandled
    have hkept := halone.passes.refresh_kept hmiddle (Prog.Exec.all halone htouches) hlog
    refine ⟨issuer, ?_, by rwa [hkept, htables]⟩
    have hrefused (hstatus : error.statusCode = .unauthorized ∨ error.statusCode = .badRequest)
        (hdead : ¬RefreshWorks ext state.database.committed state'.clock request.refreshToken) :
        issuer.serve error.intoResponse.readiness (.publicly (.refresh request))
          error.intoResponse = some issuer := by
      have hready : error.intoResponse.readiness = .ready := by
        rcases hstatus with hstatus | hstatus <;>
          simp [HttpResponse.readiness, ServerError.intoResponse, hstatus, rateLimited]
      rw [hready]
      exact if_pos ⟨hstatus, fun hlive => hdead ((hlasts.live _).mp hlive).2⟩
    rcases hwhy with hfailed | ⟨hstatus, hblank⟩ | ⟨hstatus, hstale⟩
    · have hfailing : error.intoResponse.readiness = .failing := by
        simp [HttpResponse.readiness, ServerError.intoResponse, hfailed, rateLimited]
      rw [hfailing]
      exact if_pos (.inl hfailed)
    · exact hrefused (.inr hstatus) fun hworks => hworks.1 hblank
    · refine hrefused (.inl hstatus) ?_
      rw [← htables]
      exact halone.passes.stale_dead hmiddle (Prog.Exec.all halone htouches) hlog
        (htables ▸ hunique) hstale

end Served

end Failsafe.Server
