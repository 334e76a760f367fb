import Mathlib.Algebra.Group.Nat.Defs
import Mathlib.Data.List.Nodup
import TinyBus.Library.Decimal
import TinyBus.Value

/-
The tables of users and groups, as the host reads them before it trusts a group.  A
table is a text of lines, and a line a record of fields; one line that is no record
makes the table say nothing, since it may be the record of somebody else.
-/

namespace TinyBus

namespace AccountTables

def chomp (line : List Char) : List Char :=
  if line.getLast? = some '\r' then line.dropLast else line

/-- `str::lines`. -/
def lines (text : List Char) : List (List Char) :=
  let pieces := text.splitOn '\n'
  pieces.dropLast.map chomp ++ (pieces.getLast?.toList.filter (fun rest => !rest.isEmpty))

def parseUnsigned (bits : Nat) (text : List Char) : Option Nat :=
  let digits := if text.head? = some '+' then text.tail else text
  if digits ≠ [] ∧ digits.all Char.isDigit = true ∧ Decimal.value digits < 2 ^ bits then
    some (Decimal.value digits)
  else none

def parseU32 (text : List Char) : Option UInt32 := (parseUnsigned 32 text).map UInt32.ofNat

def ignored (line : List Char) : Bool := (trimChars line).isEmpty || line.head? = some '#'

structure Account where
  name : List Char
  uid : UInt32
  gid : UInt32
  deriving DecidableEq

structure GroupRecord where
  name : List Char
  gid : UInt32
  members : List Char
  deriving DecidableEq

def readAccount (line : List Char) : Option Account :=
  match line.splitOn ':' with
  | name :: _ :: uid :: gid :: _ =>
      match parseU32 uid, parseU32 gid with
      | some uid, some gid => some ⟨name, uid, gid⟩
      | _, _ => none
  | _ => none

def readGroup (line : List Char) : Option GroupRecord :=
  match line.splitOn ':' with
  | name :: _ :: gid :: members :: _ => (parseU32 gid).map (fun gid => ⟨name, gid, members⟩)
  | _ => none

structure UserScan where
  user : Option (List Char × UInt32)
  othersWithGid : List UInt32
  names : List (List Char)

def scanUsers (uid : UInt32) : UserScan → List (List Char) → Option UserScan
  | scan, [] => some scan
  | scan, line :: rest =>
      if ignored line then scanUsers uid scan rest
      else
        match readAccount line with
        | none => none
        | some account =>
            if account.name ∈ scan.names then none
            else if account.uid = uid then
              if scan.user.isSome then none
              else
                scanUsers uid
                  { scan with
                    user := some (account.name, account.gid)
                    names := account.name :: scan.names } rest
            else
              scanUsers uid
                { scan with
                  othersWithGid := scan.othersWithGid ++ [account.gid]
                  names := account.name :: scan.names } rest

def scanGroups : List (List Char) → Option (List GroupRecord)
  | [] => some []
  | line :: rest =>
      if ignored line then scanGroups rest
      else
        match readGroup line with
        | none => none
        | some record => (scanGroups rest).map (fun records => record :: records)

def membersOk (entry : GroupRecord) (userName : List Char) : Bool :=
  ((entry.members.splitOn ',').filter (fun member => !member.isEmpty)).all
    (fun member => member = userName)

def privateGroupIn (passwd group : List Char) (uid : UInt32) : Option UInt32 :=
  match scanUsers uid ⟨none, [], []⟩ (lines passwd) with
  | none => none
  | some scan =>
      match scan.user with
      | none => none
      | some (userName, userGid) =>
          if userName.isEmpty || scan.othersWithGid.contains userGid then none
          else
            match scanGroups (lines group) with
            | none => none
            | some records =>
                match records.filter (fun record => record.gid = userGid) with
                | [entry] =>
                    if entry.name ≠ userName then none
                    else if membersOk entry userName then some userGid
                    else none
                | _ => none

def accountsOf (lines : List (List Char)) : List Account :=
  (lines.filter (fun line => !ignored line)).filterMap readAccount

def groupsOf (lines : List (List Char)) : List GroupRecord :=
  (lines.filter (fun line => !ignored line)).filterMap readGroup

/-- The group is the user's own: the primary group of its one account and of no other,
in one record under the user's name that has nobody else in it. -/
structure PrivateGroup (passwd group : List Char) (uid gid : UInt32) (user : List Char) :
    Prop where
  named : user ≠ []
  -- No record is hidden in a line that cannot be read.
  users : ∀ line ∈ lines passwd, ignored line = false → (readAccount line).isSome = true
  groups : ∀ line ∈ lines group, ignored line = false → (readGroup line).isSome = true
  account : (accountsOf (lines passwd)).filter (fun account => account.uid = uid) =
    [⟨user, uid, gid⟩]
  primary : ∀ account ∈ accountsOf (lines passwd), account.gid = gid →
    account = ⟨user, uid, gid⟩
  nameless : ∀ account ∈ accountsOf (lines passwd), account.name = user →
    account = ⟨user, uid, gid⟩
  record : ∃ members, (groupsOf (lines group)).filter (fun record => record.gid = gid) =
    [⟨user, gid, members⟩] ∧ ∀ member ∈ members.splitOn ',', member ≠ [] → member = user

variable {uid gid : UInt32}

private theorem accountsOf_ignored {line : List Char} (skip : ignored line = true)
    (rest : List (List Char)) : accountsOf (line :: rest) = accountsOf rest := by
  unfold accountsOf
  rw [List.filter_cons_of_neg (by rw [skip]; decide)]

private theorem accountsOf_read {line : List Char} (keep : ignored line = false)
    {account : Account} (read : readAccount line = some account)
    (rest : List (List Char)) : accountsOf (line :: rest) = account :: accountsOf rest := by
  unfold accountsOf
  rw [List.filter_cons_of_pos (by rw [keep]; decide), List.filterMap_cons_some read]

structure Scanned (uid : UInt32) (before after : UserScan) (lines : List (List Char)) : Prop where
  whole : ∀ line ∈ lines, ignored line = false → (readAccount line).isSome = true
  others : after.othersWithGid = before.othersWithGid ++
    ((accountsOf lines).filter (fun account => account.uid ≠ uid)).map Account.gid
  user : after.user.toList = before.user.toList ++
    ((accountsOf lines).filter (fun account => account.uid = uid)).map
      (fun account => (account.name, account.gid))
  names : ((accountsOf lines).map Account.name).Nodup
  fresh : ∀ account ∈ accountsOf lines, account.name ∉ before.names

variable {accounts : List Account}

private theorem names_nodup {account : Account} {known : List (List Char)}
    (names : (accounts.map Account.name).Nodup)
    (fresh : ∀ other ∈ accounts, other.name ∉ account.name :: known) :
    ((account :: accounts).map Account.name).Nodup := by
  refine List.nodup_cons.mpr ⟨?_, names⟩
  intro member
  obtain ⟨other, among, same⟩ := List.mem_map.mp member
  exact fresh other among (same ▸ List.mem_cons_self)

private theorem names_fresh {account : Account} {known : List (List Char)}
    (unknown : account.name ∉ known)
    (fresh : ∀ other ∈ accounts, other.name ∉ account.name :: known) :
    ∀ other ∈ account :: accounts, other.name ∉ known :=
  List.forall_mem_cons.mpr ⟨unknown, fun other among member =>
    fresh other among (List.mem_cons_of_mem _ member)⟩

theorem scanUsers_scanned {before after : UserScan} {lines : List (List Char)}
    (scanned : scanUsers uid before lines = some after) : Scanned uid before after lines := by
  induction lines generalizing before with
  | nil =>
      cases scanned
      exact ⟨nofun, (List.append_nil _).symm, (List.append_nil _).symm, List.nodup_nil, nofun⟩
  | cons line rest ih =>
      rw [scanUsers] at scanned
      split at scanned
      · rename_i skip
        obtain ⟨whole, others, user, names, fresh⟩ := ih scanned
        have same := accountsOf_ignored skip rest
        refine ⟨?_, same ▸ others, same ▸ user, same ▸ names, same ▸ fresh⟩
        refine List.forall_mem_cons.mpr ⟨?_, whole⟩
        intro keep
        rw [skip] at keep
        cases keep
      · rename_i kept
        have keep := eq_false_of_ne_true kept
        split at scanned
        · cases scanned
        · rename_i account read
          have same := accountsOf_read keep read rest
          have readable : ignored line = false → (readAccount line).isSome = true := by
            intro _
            rw [read]
            rfl
          split at scanned
          · cases scanned
          · rename_i unknown
            split at scanned
            · rename_i own
              split at scanned
              · cases scanned
              · rename_i first
                obtain ⟨whole, others, user, names, fresh⟩ := ih scanned
                have none : before.user = none :=
                  Option.not_isSome_iff_eq_none.mp first
                refine ⟨List.forall_mem_cons.mpr ⟨readable, whole⟩, ?_, ?_, ?_, ?_⟩
                · rw [same, List.filter_cons_of_neg (by simpa using own)]
                  exact others
                · rw [same, List.filter_cons_of_pos (by simpa using own), none]
                  exact user
                · rw [same]
                  exact names_nodup names fresh
                · rw [same]
                  exact names_fresh unknown fresh
            · rename_i other
              obtain ⟨whole, others, user, names, fresh⟩ := ih scanned
              refine ⟨List.forall_mem_cons.mpr ⟨readable, whole⟩, ?_, ?_, ?_, ?_⟩
              · rw [same, List.filter_cons_of_pos (by simpa using other), others,
                  List.append_assoc]
                rfl
              · rw [same, List.filter_cons_of_neg (by simpa using other)]
                exact user
              · rw [same]
                exact names_nodup names fresh
              · rw [same]
                exact names_fresh unknown fresh

theorem scanGroups_read {lines : List (List Char)} {records : List GroupRecord}
    (scanned : scanGroups lines = some records) :
    records = groupsOf lines ∧
      ∀ line ∈ lines, ignored line = false → (readGroup line).isSome = true := by
  induction lines generalizing records with
  | nil =>
      cases scanned
      exact ⟨rfl, nofun⟩
  | cons line rest ih =>
      rw [scanGroups] at scanned
      unfold groupsOf
      split at scanned
      · rename_i skip
        obtain ⟨same, whole⟩ := ih scanned
        rw [List.filter_cons_of_neg (by rw [skip]; decide)]
        refine ⟨same, List.forall_mem_cons.mpr ⟨?_, whole⟩⟩
        intro keep
        rw [skip] at keep
        cases keep
      · rename_i kept
        have keep := eq_false_of_ne_true kept
        split at scanned
        · cases scanned
        · rename_i record read
          obtain ⟨others, scans, rfl⟩ := Option.map_eq_some_iff.mp scanned
          obtain ⟨same, whole⟩ := ih scans
          rw [List.filter_cons_of_pos (by rw [keep]; decide), List.filterMap_cons_some read]
          refine ⟨congrArg (List.cons record) same, List.forall_mem_cons.mpr ⟨?_, whole⟩⟩
          intro _
          rw [read]
          rfl

theorem membersOk_iff {entry : GroupRecord} {userName : List Char} :
    membersOk entry userName = true ↔
      ∀ member ∈ entry.members.splitOn ',', member ≠ [] → member = userName := by
  unfold membersOk
  rw [List.all_eq_true]
  simp only [List.mem_filter, decide_eq_true_eq, and_imp, Bool.not_eq_true',
    List.isEmpty_eq_false_iff]

private theorem filter_singleton {name : List Char} {gid : UInt32}
    (found : (accounts.filter (fun account => account.uid = uid)).map
      (fun account => (account.name, account.gid)) = [(name, gid)]) :
    accounts.filter (fun account => account.uid = uid) = [⟨name, uid, gid⟩] := by
  obtain ⟨account, only, pair⟩ := List.map_eq_singleton_iff.mp found
  have among : account ∈ accounts.filter (fun account => account.uid = uid) :=
    only ▸ List.mem_singleton_self account
  have own : account.uid = uid := by simpa using (List.mem_filter.mp among).2
  rw [only, ← own]
  cases pair
  rfl

theorem privateGroupIn_private {passwd group : List Char}
    (found : privateGroupIn passwd group uid = some gid) :
    ∃ user, PrivateGroup passwd group uid gid user := by
  unfold privateGroupIn at found
  split at found
  · cases found
  · rename_i scan scans
    split at found
    · cases found
    · rename_i name userGid user
      split at found
      · cases found
      · rename_i apart
        rw [Bool.or_eq_true, not_or, List.isEmpty_iff, List.contains_iff_mem] at apart
        split at found
        · cases found
        · rename_i records reads
          split at found
          · rename_i entry only
            split at found
            · cases found
            · rename_i named
              split at found
              · rename_i members
                cases found
                obtain ⟨whole, others, own, names, _⟩ := scanUsers_scanned scans
                obtain ⟨rfl, groups⟩ := scanGroups_read reads
                rw [user] at own
                have account := filter_singleton own.symm
                have one : (⟨name, uid, gid⟩ : Account) ∈ accountsOf (lines passwd) :=
                  (List.mem_filter.mp (account ▸ List.mem_singleton_self _)).1
                refine ⟨name, apart.1, whole, groups, account, ?_, ?_, ?_⟩
                · intro other member same
                  by_cases mine : other.uid = uid
                  · have among : other ∈ (accountsOf (lines passwd)).filter
                        (fun account => account.uid = uid) :=
                      List.mem_filter.mpr ⟨member, decide_eq_true mine⟩
                    rw [account] at among
                    exact List.mem_singleton.mp among
                  · refine absurd ?_ apart.2
                    have among : other ∈ (accountsOf (lines passwd)).filter
                        (fun account => account.uid ≠ uid) :=
                      List.mem_filter.mpr ⟨member, decide_eq_true mine⟩
                    rw [others, ← same]
                    exact List.mem_map_of_mem among
                · exact fun other member same =>
                    List.inj_on_of_nodup_map names member one same
                · have among : entry ∈ (groupsOf (lines group)).filter
                      (fun record => record.gid = gid) := only ▸ List.mem_singleton_self entry
                  have its : entry.gid = gid := by simpa using (List.mem_filter.mp among).2
                  refine ⟨entry.members, ?_, membersOk_iff.mp members⟩
                  rw [only, ← its, ← Decidable.not_not.mp named]
              · cases found
          · cases found

end AccountTables

end TinyBus
