import Failsafe.Server.Entity

/-!
What a statement can do to each of the tables, and the keys that stay unique.
-/

namespace Failsafe.Server

open Failsafe.Core Failsafe.Lib

section Rows

variable {ρ : Type}

theorem insertUnique_ok {clash : ρ → Bool} {row : ρ} {rows rows' : List ρ}
    (h : insertUnique clash row rows = .ok rows') :
    (∀ other ∈ rows, clash other = false) ∧ rows' = rows ++ [row] := by
  unfold insertUnique at h
  split at h
  · cases h
  · rename_i hclash
    refine ⟨fun other hmem => ?_, (Except.ok.inj h).symm⟩
    rw [List.any_eq_true] at hclash
    exact Bool.eq_false_iff.mpr fun htrue => hclash ⟨other, hmem, htrue⟩

theorem insert_ok {α σ : Type} {clash : ρ → Bool} {row : ρ} {rows : List ρ}
    {f : List ρ → α × σ} {result : α} {state : σ}
    (h : (insertUnique clash row rows).map f = .ok (result, state)) :
    (∀ other ∈ rows, clash other = false) ∧ f (rows ++ [row]) = (result, state) := by
  cases hinsert : insertUnique clash row rows with
  | error error =>
      rw [hinsert] at h
      cases h
  | ok rows' =>
      rw [hinsert] at h
      obtain ⟨hclash, rfl⟩ := insertUnique_ok hinsert
      exact ⟨hclash, Except.ok.inj h⟩

end Rows

variable {statement : Statement} {result : statement.Result} {tables tables' : Tables}

theorem run_account (h : statement.run tables = .ok (result, tables')) :
    tables'.account = tables.account ∨
      (∃ new, statement = .insertAccount new ∧
        (∀ row ∈ tables.account, row.id ≠ new.id ∧ row.email ≠ new.email) ∧
        tables'.account = tables.account ++ [new]) ∨
      ∃ id active, statement = .updateAccount id active ∧
        tables'.account = tables.account.map fun row =>
          if row.id = id then active.apply row else row := by
  cases statement with
  | insertAccount new =>
      obtain ⟨hclash, hrow⟩ := insert_ok h
      obtain ⟨-, rfl⟩ := Prod.mk.inj hrow
      refine .inr (.inl ⟨new, rfl, fun row hmem => ?_, rfl⟩)
      simpa using hclash row hmem
  | updateAccount id active =>
      obtain ⟨-, rfl⟩ := Prod.mk.inj (Except.ok.inj h)
      exact .inr (.inr ⟨id, active, rfl, by simp⟩)
  | insertDevice | insertPairingCode | insertRecoveryCode | insertRefreshToken =>
      obtain ⟨-, hrow⟩ := insert_ok h
      obtain ⟨-, rfl⟩ := Prod.mk.inj hrow
      exact .inl rfl
  | _ =>
      obtain ⟨-, rfl⟩ := Prod.mk.inj (Except.ok.inj h)
      exact .inl rfl

theorem run_device (h : statement.run tables = .ok (result, tables')) :
    tables'.device = tables.device ∨
      (∃ new, statement = .insertDevice new ∧
        (∀ row ∈ tables.device, row.deviceId ≠ new.deviceId) ∧
        tables'.device = tables.device ++ [new]) ∨
      ∃ id active, statement = .updateDevice id active ∧
        tables'.device = tables.device.map fun row =>
          if row.deviceId = id then active.apply row else row := by
  cases statement with
  | insertDevice new =>
      obtain ⟨hclash, hrow⟩ := insert_ok h
      obtain ⟨-, rfl⟩ := Prod.mk.inj hrow
      refine .inr (.inl ⟨new, rfl, fun row hmem => ?_, rfl⟩)
      simpa using hclash row hmem
  | updateDevice id active =>
      obtain ⟨-, rfl⟩ := Prod.mk.inj (Except.ok.inj h)
      exact .inr (.inr ⟨id, active, rfl, by simp⟩)
  | insertAccount | insertPairingCode | insertRecoveryCode | insertRefreshToken =>
      obtain ⟨-, hrow⟩ := insert_ok h
      obtain ⟨-, rfl⟩ := Prod.mk.inj hrow
      exact .inl rfl
  | _ =>
      obtain ⟨-, rfl⟩ := Prod.mk.inj (Except.ok.inj h)
      exact .inl rfl

theorem run_pairingCode (h : statement.run tables = .ok (result, tables')) :
    tables'.pairingCode = tables.pairingCode ∨
      (∃ new, statement = .insertPairingCode new ∧
        (∀ row ∈ tables.pairingCode, row.id ≠ new.id ∧ row.code ≠ new.code) ∧
        tables'.pairingCode = tables.pairingCode ++ [new]) ∨
      ∃ id usedAt, statement = .usePairingCode id usedAt ∧
        tables'.pairingCode = tables.pairingCode.map fun row =>
          if row.id = id ∧ row.usedAt = none then { row with usedAt := some usedAt } else row := by
  cases statement with
  | insertPairingCode new =>
      obtain ⟨hclash, hrow⟩ := insert_ok h
      obtain ⟨-, rfl⟩ := Prod.mk.inj hrow
      refine .inr (.inl ⟨new, rfl, fun row hmem => ?_, rfl⟩)
      simpa using hclash row hmem
  | usePairingCode id usedAt =>
      obtain ⟨-, rfl⟩ := Prod.mk.inj (Except.ok.inj h)
      exact .inr (.inr ⟨id, usedAt, rfl, by simp⟩)
  | insertAccount | insertDevice | insertRecoveryCode | insertRefreshToken =>
      obtain ⟨-, hrow⟩ := insert_ok h
      obtain ⟨-, rfl⟩ := Prod.mk.inj hrow
      exact .inl rfl
  | _ =>
      obtain ⟨-, rfl⟩ := Prod.mk.inj (Except.ok.inj h)
      exact .inl rfl

theorem run_recoveryCode (h : statement.run tables = .ok (result, tables')) :
    tables'.recoveryCode = tables.recoveryCode ∨
      (∃ new, statement = .insertRecoveryCode new ∧
        (∀ row ∈ tables.recoveryCode, row.id ≠ new.id ∧ row.codeHash ≠ new.codeHash) ∧
        tables'.recoveryCode = tables.recoveryCode ++ [new]) ∨
      (∃ accountId, statement = .deleteRecoveryCodes accountId ∧
        tables'.recoveryCode =
          tables.recoveryCode.filter fun row => !(row.accountId == accountId)) ∨
      ∃ accountId codeHash usedAt, statement = .useRecoveryCode accountId codeHash usedAt ∧
        tables'.recoveryCode = tables.recoveryCode.map fun row =>
          if row.accountId = accountId ∧ row.codeHash = codeHash ∧ row.usedAt = none then
            { row with usedAt := some usedAt }
          else row := by
  cases statement with
  | insertRecoveryCode new =>
      obtain ⟨hclash, hrow⟩ := insert_ok h
      obtain ⟨-, rfl⟩ := Prod.mk.inj hrow
      refine .inr (.inl ⟨new, rfl, fun row hmem => ?_, rfl⟩)
      simpa using hclash row hmem
  | deleteRecoveryCodes accountId =>
      obtain ⟨-, rfl⟩ := Prod.mk.inj (Except.ok.inj h)
      exact .inr (.inr (.inl ⟨accountId, rfl, rfl⟩))
  | useRecoveryCode accountId codeHash usedAt =>
      obtain ⟨-, rfl⟩ := Prod.mk.inj (Except.ok.inj h)
      exact .inr (.inr (.inr ⟨accountId, codeHash, usedAt, rfl,
        by simp [and_assoc]⟩))
  | insertAccount | insertDevice | insertPairingCode | insertRefreshToken =>
      obtain ⟨-, hrow⟩ := insert_ok h
      obtain ⟨-, rfl⟩ := Prod.mk.inj hrow
      exact .inl rfl
  | _ =>
      obtain ⟨-, rfl⟩ := Prod.mk.inj (Except.ok.inj h)
      exact .inl rfl

theorem run_refreshToken (h : statement.run tables = .ok (result, tables')) :
    tables'.refreshToken = tables.refreshToken ∨
      (∃ new, statement = .insertRefreshToken new ∧
        (∀ row ∈ tables.refreshToken, row.id ≠ new.id ∧ row.tokenHash ≠ new.tokenHash) ∧
        tables'.refreshToken = tables.refreshToken ++ [new]) ∨
      (∃ id active, statement = .updateRefreshToken id active ∧
        tables'.refreshToken = tables.refreshToken.map fun row =>
          if row.id = id then active.apply row else row) ∨
      ∃ accountId revokedAt, statement = .revokeRefreshTokens accountId revokedAt ∧
        tables'.refreshToken = tables.refreshToken.map fun row =>
          if row.accountId = accountId ∧ row.revokedAt = none then
            { row with revokedAt := some revokedAt }
          else row := by
  cases statement with
  | insertRefreshToken new =>
      obtain ⟨hclash, hrow⟩ := insert_ok h
      obtain ⟨-, rfl⟩ := Prod.mk.inj hrow
      refine .inr (.inl ⟨new, rfl, fun row hmem => ?_, rfl⟩)
      simpa using hclash row hmem
  | updateRefreshToken id active =>
      obtain ⟨-, rfl⟩ := Prod.mk.inj (Except.ok.inj h)
      exact .inr (.inr (.inl ⟨id, active, rfl, by simp⟩))
  | revokeRefreshTokens accountId revokedAt =>
      obtain ⟨-, rfl⟩ := Prod.mk.inj (Except.ok.inj h)
      exact .inr (.inr (.inr ⟨accountId, revokedAt, rfl, by simp⟩))
  | insertAccount | insertDevice | insertPairingCode | insertRecoveryCode =>
      obtain ⟨-, hrow⟩ := insert_ok h
      obtain ⟨-, rfl⟩ := Prod.mk.inj hrow
      exact .inl rfl
  | _ =>
      obtain ⟨-, rfl⟩ := Prod.mk.inj (Except.ok.inj h)
      exact .inl rfl

section Keys

variable {ρ κ : Type}

/-- Rows that a statement leaves, with regard to a key of them. -/
inductive RowsStep (key : ρ → κ) (rows : List ρ) : List ρ → Prop
  | add {new : ρ} : (∀ row ∈ rows, key row ≠ key new) → RowsStep key rows (rows ++ [new])
  | set {f : ρ → ρ} : (∀ row, key (f row) = key row) → RowsStep key rows (rows.map f)
  | remove {p : ρ → Bool} : RowsStep key rows (rows.filter p)

theorem RowsStep.same {key : ρ → κ} {rows : List ρ} : RowsStep key rows rows := by
  have hset : RowsStep key rows (rows.map fun row => row) := .set fun _ => rfl
  rwa [List.map_id'] at hset

theorem RowsStep.nodup {key : ρ → κ} {rows rows' : List ρ} (h : RowsStep key rows rows')
    (hunique : (rows.map key).Nodup) : (rows'.map key).Nodup := by
  cases h with
  | add hfresh =>
      rw [List.map_append, List.map_singleton]
      refine List.Nodup.append hunique (List.nodup_singleton _) (List.disjoint_singleton.mpr ?_)
      intro hmem
      obtain ⟨row, hrow, hkey⟩ := List.mem_map.mp hmem
      exact hfresh row hrow hkey
  | set hkey =>
      rwa [List.map_map, show key ∘ _ = key from funext hkey]
  | remove =>
      exact hunique.sublist (List.filter_sublist.map key)

/-- The unique columns of the tables. -/
structure Tables.Unique (tables : Tables) : Prop where
  accountId : (tables.account.map Account.id).Nodup
  email : (tables.account.map Account.email).Nodup
  deviceId : (tables.device.map Device.deviceId).Nodup
  pairingCodeId : (tables.pairingCode.map PairingCode.id).Nodup
  code : (tables.pairingCode.map PairingCode.code).Nodup
  recoveryCodeId : (tables.recoveryCode.map RecoveryCode.id).Nodup
  codeHash : (tables.recoveryCode.map RecoveryCode.codeHash).Nodup
  refreshTokenId : (tables.refreshToken.map RefreshToken.id).Nodup
  tokenHash : (tables.refreshToken.map RefreshToken.tokenHash).Nodup

theorem Tables.unique_empty : Tables.empty.Unique := by
  constructor <;> exact List.nodup_nil

theorem account_step (h : statement.run tables = .ok (result, tables')) :
    RowsStep Account.id tables.account tables'.account ∧
      RowsStep Account.email tables.account tables'.account := by
  rcases run_account h with hrows | ⟨new, -, hfresh, hrows⟩ | ⟨id, active, -, hrows⟩
  · rw [hrows]
    exact ⟨.same, .same⟩
  · rw [hrows]
    exact ⟨.add fun row hmem => (hfresh row hmem).1, .add fun row hmem => (hfresh row hmem).2⟩
  · rw [hrows]
    constructor <;> refine .set fun row => ?_ <;> split <;> rfl

theorem device_step (h : statement.run tables = .ok (result, tables')) :
    RowsStep Device.deviceId tables.device tables'.device := by
  rcases run_device h with hrows | ⟨new, -, hfresh, hrows⟩ | ⟨id, active, -, hrows⟩
  · exact hrows ▸ .same
  · exact hrows ▸ .add hfresh
  · rw [hrows]
    refine .set fun row => ?_
    split <;> rfl

theorem pairingCode_step (h : statement.run tables = .ok (result, tables')) :
    RowsStep PairingCode.id tables.pairingCode tables'.pairingCode ∧
      RowsStep PairingCode.code tables.pairingCode tables'.pairingCode := by
  rcases run_pairingCode h with hrows | ⟨new, -, hfresh, hrows⟩ | ⟨id, usedAt, -, hrows⟩
  · rw [hrows]
    exact ⟨.same, .same⟩
  · rw [hrows]
    exact ⟨.add fun row hmem => (hfresh row hmem).1, .add fun row hmem => (hfresh row hmem).2⟩
  · rw [hrows]
    constructor <;> refine .set fun row => ?_ <;> split <;> rfl

theorem recoveryCode_step (h : statement.run tables = .ok (result, tables')) :
    RowsStep RecoveryCode.id tables.recoveryCode tables'.recoveryCode ∧
      RowsStep RecoveryCode.codeHash tables.recoveryCode tables'.recoveryCode := by
  rcases run_recoveryCode h with
    hrows | ⟨new, -, hfresh, hrows⟩ | ⟨accountId, -, hrows⟩ |
      ⟨accountId, codeHash, usedAt, -, hrows⟩
  · rw [hrows]
    exact ⟨.same, .same⟩
  · rw [hrows]
    exact ⟨.add fun row hmem => (hfresh row hmem).1, .add fun row hmem => (hfresh row hmem).2⟩
  · rw [hrows]
    exact ⟨.remove, .remove⟩
  · rw [hrows]
    constructor <;> refine .set fun row => ?_ <;> split <;> rfl

theorem refreshToken_step (h : statement.run tables = .ok (result, tables')) :
    RowsStep RefreshToken.id tables.refreshToken tables'.refreshToken ∧
      RowsStep RefreshToken.tokenHash tables.refreshToken tables'.refreshToken := by
  rcases run_refreshToken h with
    hrows | ⟨new, -, hfresh, hrows⟩ | ⟨id, active, -, hrows⟩ | ⟨accountId, revokedAt, -, hrows⟩
  · rw [hrows]
    exact ⟨.same, .same⟩
  · rw [hrows]
    exact ⟨.add fun row hmem => (hfresh row hmem).1, .add fun row hmem => (hfresh row hmem).2⟩
  · rw [hrows]
    constructor <;> refine .set fun row => ?_ <;> split <;> rfl
  · rw [hrows]
    constructor <;> refine .set fun row => ?_ <;> split <;> rfl

theorem run_unique (h : statement.run tables = .ok (result, tables')) (hunique : tables.Unique) :
    tables'.Unique where
  accountId := (account_step h).1.nodup hunique.accountId
  email := (account_step h).2.nodup hunique.email
  deviceId := (device_step h).nodup hunique.deviceId
  pairingCodeId := (pairingCode_step h).1.nodup hunique.pairingCodeId
  code := (pairingCode_step h).2.nodup hunique.code
  recoveryCodeId := (recoveryCode_step h).1.nodup hunique.recoveryCodeId
  codeHash := (recoveryCode_step h).2.nodup hunique.codeHash
  refreshTokenId := (refreshToken_step h).1.nodup hunique.refreshTokenId
  tokenHash := (refreshToken_step h).2.nodup hunique.tokenHash

theorem replay_unique {firm : Statement → Bool} {entries : List schema.Entry}
    (h : schema.replay firm entries tables = some tables') (hunique : tables.Unique) :
    tables'.Unique :=
  Schema.replay_induction (R := fun before after => before.Unique → after.Unique)
    (fun _ => id) (fun _ _ _ h₁ h₂ h => h₂ (h₁ h))
    (fun _ _ _ _ _ hrun _ => run_unique hrun) h hunique

end Keys

end Failsafe.Server
