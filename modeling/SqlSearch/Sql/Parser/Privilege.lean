import SqlSearch.Sql.Parser.Alter

/-!
# Roles and privileges

Parsers for the statements on who may do what: roles, privileges, policies and secrets. All
that is kept of them is their written form.

## Main definitions

* `Grammar.grant`, `Grammar.revoke`: privileges
* `Grammar.createRole`, `Grammar.alterRole`: roles
* `Grammar.createPolicy`, `Grammar.alterPolicy`: policies
* `Grammar.createSecret`, `Grammar.dropSecret`: secrets
-/

namespace SqlSearch.Sql

open SqlSearch.Sql.Parser

namespace Grammar

variable (g : Grammar)

/-- A privilege, possibly on some columns only. -/
def privilege : Parser String := do
  match ← oneOf? ["SELECT", "INSERT", "UPDATE", "REFERENCES"] with
  | some kind => return kind ++ (← columnsAfter)
  | none =>
    oneOf ["DELETE", "TRUNCATE", "TRIGGER", "CONNECT", "CREATE", "EXECUTE", "TEMPORARY",
      "USAGE"]

/-- Privileges with what they are on. -/
def privileges : Parser String := do
  let granted ← if ← keyword? "ALL" then do
      pure ("ALL" ++ (← wordAfter ["PRIVILEGES"]))
    else do pure (commas (← commaList privilege))
  keyword "ON"
  let kind ← match ← choice? [["ALL", "TABLES", "IN", "SCHEMA"],
    ["ALL", "SEQUENCES", "IN", "SCHEMA"],
      ["SCHEMA"], ["SEQUENCE"]] with
    | some ks => pure (String.intercalate " " ks ++ " ")
    | none => do
      let _ ← keyword? "TABLE"
      pure ""
  let names ← commaList path
  return s!"{granted} ON {kind}{commas (names.map Path.render)}"

/-- Who gives a privilege, with a blank in front, or nothing. -/
def grantedBy : Parser String := do
  if ← keywords? ["GRANTED", "BY"] then return " GRANTED BY " ++ (← ident).render
  else return ""

/-- What follows `GRANT`. -/
def grant : Parser Statement := do
  let granted ← privileges
  keyword "TO"
  let users ← commaList ident
  let further ← wordsAfter ["WITH", "GRANT", "OPTION"]
  return .other (s!"GRANT {granted} TO {joinIdents users}{further}" ++ (← grantedBy))

/-- What follows `REVOKE`. -/
def revoke : Parser Statement := do
  let revoked ← privileges
  keyword "FROM"
  let users ← commaList ident
  let giver ← grantedBy
  return .other (s!"REVOKE {revoked} FROM {joinIdents users}{giver}" ++ (← dropBehavior))

/-- The abilities of a role, in the order in which they are written. -/
def abilities : List String :=
  ["SUPERUSER", "CREATEDB", "CREATEROLE", "INHERIT", "LOGIN", "REPLICATION", "BYPASSRLS"]

/-- A property of a role: what it is about, and its written form with a blank in front. -/
def roleOption? : Parser (Option (String × String)) := do
  let k ← keywordAt 0
  match abilities.find? (fun ability => k == ability || k == "NO" ++ ability) with
  | some ability =>
    keyword k
    return some (ability, " " ++ k)
  | none =>
    if ← keyword? "CONNECTION" then
      keyword "LIMIT"
      return some ("CONNECTION", " CONNECTION LIMIT " ++ (← number))
    else if ← keyword? "PASSWORD" then
      return some ("PASSWORD", " PASSWORD " ++ (← literal).render)
    else if ← keyword? "VALID" then
      keyword "UNTIL"
      return some ("VALID", " VALID UNTIL " ++ (← literal).render)
    else return none

/-- Other roles that a new role belongs to or that belong to it, or nothing. -/
def membership? : Parser (Option (String × String)) := do
  match ← choice? [["IN", "ROLE"], ["IN", "GROUP"], ["ROLE"], ["USER"], ["ADMIN"]] with
  | some ks =>
    let kind := String.intercalate " " ks
    return some (kind, s!" {kind} " ++ joinIdents (← commaList ident))
  | none => return none

/-- What follows `CREATE ROLE`. Each property can be given once. -/
def createRole : Parser String := do
  let missing ← words ["IF", "NOT", "EXISTS"]
  let names ← commaList path
  let _ ← keyword? "WITH"
  let found ← if g.dialect != .postgres then pure [] else many do
    if let some option ← roleOption? then return some option else membership?
  let kinds := abilities ++
    ["CONNECTION", "PASSWORD", "VALID", "IN ROLE", "IN GROUP", "ROLE", "USER", "ADMIN"]
  require (kinds.all fun kind => (found.filter (·.1 == kind)).length ≤ 1)
  return s!"CREATE ROLE {missing}{commas (names.map Path.render)}" ++
    String.join (kinds.map fun kind => (found.lookup kind).getD "")

/-- What follows `ALTER ROLE`. -/
def alterRole : Parser String := do
  require (g.dialect == .postgres)
  let name ← ident
  let database ← if ← keywords? ["IN", "DATABASE"] then optional? path else pure none
  let place := database.elim "" fun d => s!"IN DATABASE {d.render} "
  let change ← if ← keyword? "RENAME" then do
      keyword "TO"
      pure ("RENAME TO " ++ (← ident).render)
    else if ← keyword? "SET" then do
      let setting ← path
      if ← keywords? ["FROM", "CURRENT"] then
        pure s!"{place}SET {setting.render} FROM CURRENT"
      else
        let assigned ← if ← symbol? "=" then pure true else keyword? "TO"
        require assigned
        let value ← if ← keyword? "DEFAULT" then pure "DEFAULT" else do pure (← g.expr).render
        pure s!"{place}SET {setting.render} TO {value}"
    else if ← keyword? "RESET" then do
      let setting ← if ← keyword? "ALL" then pure "ALL" else do pure (← path).render
      pure s!"{place}RESET {setting}"
    else do
      let _ ← keyword? "WITH"
      let options ← many roleOption?
      require !options.isEmpty
      pure ("WITH" ++ String.join (options.map Prod.snd))
  return s!"ALTER ROLE {name.render} {change}"

/-- Whom a policy is for and which rows it lets them see and make, each with a blank in
front. -/
def policyRules : Parser String := do
  let users ← if ← keyword? "TO" then do pure (" TO " ++ commas (← commaList owner))
    else pure ""
  let visible ← if ← keyword? "USING" then do
      pure (" USING (" ++ (← parens g.expr).render ++ ")")
    else pure ""
  let checked ← if ← keywords? ["WITH", "CHECK"] then do
      pure (" WITH CHECK (" ++ (← parens g.expr).render ++ ")")
    else pure ""
  return users ++ visible ++ checked

/-- What follows `CREATE POLICY`. -/
def createPolicy : Parser String := do
  let name ← ident
  keyword "ON"
  let table ← path
  let kind ← clauseAfter "AS" (oneOf ["PERMISSIVE", "RESTRICTIVE"])
  let command ← clauseAfter "FOR" (oneOf ["ALL", "SELECT", "INSERT", "UPDATE", "DELETE"])
  return s!"CREATE POLICY {name.render} ON {table.render}{kind}{command}" ++ (← g.policyRules)

/-- What follows `ALTER POLICY`. -/
def alterPolicy : Parser String := do
  let name ← ident
  keyword "ON"
  let table ← path
  let lead := s!"ALTER POLICY {name.render} ON {table.render}"
  if ← keyword? "RENAME" then
    keyword "TO"
    return lead ++ " RENAME TO " ++ (← ident).render
  else return lead ++ (← g.policyRules)

/-- What follows `CREATE SECRET`; `lead` holds the words in front of `SECRET`. -/
def createSecret (lead : String) : Parser String := do
  let missing ← words ["IF", "NOT", "EXISTS"]
  let storage : Parser String := do return "IN " ++ (← ident).render ++ " "
  let place ← if ← atSymbol "(" then pure "" else if ← keyword? "IN" then storage else do
    let name ← ident
    pure (name.render ++ " " ++ (← if ← keyword? "IN" then storage else pure ""))
  symbol "("
  keyword "TYPE"
  let kind ← ident
  let options ← many do whenever (← symbol? ",") do
    let key ← ident
    return s!", {key.render} " ++ (← ident).render
  symbol ")"
  return s!"CREATE {lead}SECRET {missing}{place}( TYPE {kind.render}" ++
    String.join options ++ " )"

/-- What follows `DROP SECRET`; `temporary` stands between the two. -/
def dropSecret (temporary : String) : Parser String := do
  let present ← words ["IF", "EXISTS"]
  let name ← ident
  return s!"DROP {temporary}SECRET {present}{name.render}" ++
    (← clauseAfter "FROM" (Ident.render <$> ident))

/-- What follows `ALTER`. -/
def alter : Parser Statement := do
  match ← oneOf ["VIEW", "TABLE", "INDEX", "ROLE", "POLICY"] with
  | "VIEW" => .other <$> g.alterView
  | "TABLE" => .other <$> g.alterTable
  | "INDEX" => .other <$> alterIndex
  | "ROLE" => .other <$> g.alterRole
  | _ => .other <$> g.alterPolicy

end Grammar

end SqlSearch.Sql
