/-
Ontograph.Builtin.Congressional — bills, members and committees.

The ontology of the legislation of a congress: who sponsors which bill, and
which committee a bill is referred to.
-/
import Ontograph.Ontology.Basic

namespace Ontograph.Congressional

def domain : String := "congressional"

def bill : NodeType where
  name := "Bill"
  description := "A legislative bill introduced in Congress"
  domain := domain
  schemaOrgType := some "Legislation"
  identityKeys := ["number"]
  properties := commonProperties ++ [
    { name := "number", type := .standard .string, required := true, indexed := true,
      description := "Bill number (e.g., H.R.1234)" },
    { name := "title", type := .standard .text, required := true, fulltext := true,
      description := "Bill title" },
    { name := "short_title", type := .standard .string,
      description := "Short title if available" },
    { name := "congress", type := .standard .integer, required := true, indexed := true,
      description := "Congress number (e.g., 118)" },
    { name := "chamber", type := .standard .string, indexed := true,
      description := "House or Senate" },
    { name := "bill_type", type := .standard .string, indexed := true,
      description := "Type: hr, s, hjres, sjres, etc." },
    { name := "introduced_date", type := .standard .date, indexed := true,
      description := "Date introduced" },
    { name := "latest_action_date", type := .standard .date,
      description := "Date of most recent action" },
    { name := "latest_action_text", type := .standard .text,
      description := "Text of most recent action" },
    { name := "policy_area", type := .standard .string, indexed := true,
      description := "Primary policy area" },
    { name := "summary", type := .standard .text, fulltext := true,
      description := "Bill summary text" }]
  queryTools := [
    { name := "get_bill"
      description := "Get detailed information about a specific bill"
      template :=
        "MATCH (b:Bill \x7bnumber: $number, congress: $congress\x7d) RETURN b"
      parameters := Registry.ofList [("number", "string"), ("congress", "integer")] },
    { name := "find_sponsors"
      description := "Find all sponsors and cosponsors of a bill"
      template :=
        "MATCH (m:Member)-[r:SPONSORS|COSPONSORS]->(b:Bill \x7bnumber: $number, congress: " ++
        "$congress\x7d) RETURN m, type(r) AS relationship"
      parameters := Registry.ofList [("number", "string"), ("congress", "integer")] },
    { name := "related_bills"
      description := "Find bills related to a given bill"
      template :=
        "MATCH (b:Bill \x7bnumber: $number, congress: $congress\x7d)-[:RELATED_TO]-(r:Bill) " ++
        "RETURN r"
      parameters := Registry.ofList [("number", "string"), ("congress", "integer")] },
    { name := "bills_by_policy"
      description := "Find bills in a specific policy area"
      template :=
        "MATCH (b:Bill \x7bpolicy_area: $policy_area, congress: $congress\x7d) RETURN b " ++
        "LIMIT $limit"
      parameters := Registry.ofList [("policy_area", "string"), ("congress", "integer"), ("limit", "integer")] }]

def member : NodeType where
  name := "Member"
  description := "A member of Congress (Representative or Senator)"
  domain := domain
  schemaOrgType := some "Person"
  additionalLabels := ["Person"]
  identityKeys := ["bioguide_id"]
  properties := commonProperties ++ [
    { name := "bioguide_id", type := .standard .string, required := true, unique := true,
      indexed := true, description := "Bioguide ID" },
    { name := "name", type := .standard .string, required := true, fulltext := true,
      description := "Full name" },
    { name := "first_name", type := .standard .string, description := "First name" },
    { name := "last_name", type := .standard .string, indexed := true,
      description := "Last name" },
    { name := "party", type := .standard .string, indexed := true,
      description := "Political party (D, R, I)" },
    { name := "state", type := .standard .string, indexed := true,
      description := "State represented" },
    { name := "district", type := .standard .string,
      description := "District number (House only)" },
    { name := "chamber", type := .standard .string, indexed := true,
      description := "House or Senate" },
    { name := "terms_served", type := .standard .integer,
      description := "Number of terms served" },
    { name := "current_term_start", type := .standard .date,
      description := "Start of current term" },
    { name := "current_term_end", type := .standard .date, description := "End of current term" },
    { name := "url", type := .standard .string, description := "Official website URL" }]
  queryTools := [
    { name := "get_member"
      description := "Get detailed information about a specific member of Congress"
      template :=
        "MATCH (m:Member \x7bbioguide_id: $bioguide_id\x7d) RETURN m"
      parameters := Registry.ofList [("bioguide_id", "string")] },
    { name := "member_bills"
      description := "Find all bills sponsored by a member"
      template :=
        "MATCH (m:Member \x7bbioguide_id: $bioguide_id\x7d)-[:SPONSORS]->(b:Bill) RETURN b " ++
        "ORDER BY b.introduced_date DESC LIMIT $limit"
      parameters := Registry.ofList [("bioguide_id", "string"), ("limit", "integer")] },
    { name := "members_by_state"
      description := "Find all members representing a state"
      template :=
        "MATCH (m:Member \x7bstate: $state\x7d) RETURN m"
      parameters := Registry.ofList [("state", "string")] },
    { name := "member_committees"
      description := "Find all committees a member serves on"
      template :=
        "MATCH (m:Member \x7bbioguide_id: $bioguide_id\x7d)-[r:SERVES_ON]->(c:Committee) " ++
        "RETURN c, r.role AS role"
      parameters := Registry.ofList [("bioguide_id", "string")] }]

def committee : NodeType where
  name := "Committee"
  description := "A congressional committee or subcommittee"
  domain := domain
  schemaOrgType := some "Organization"
  additionalLabels := ["Organization"]
  identityKeys := ["system_code"]
  properties := commonProperties ++ [
    { name := "system_code", type := .standard .string, required := true, unique := true,
      indexed := true, description := "Committee system code" },
    { name := "name", type := .standard .string, required := true, fulltext := true,
      description := "Committee name" },
    { name := "chamber", type := .standard .string, indexed := true,
      description := "House, Senate, or Joint" },
    { name := "committee_type", type := .standard .string, indexed := true,
      description := "Standing, Select, Joint, etc." },
    { name := "parent_committee", type := .standard .string,
      description := "Parent committee code (for subcommittees)" },
    { name := "jurisdiction", type := .standard .text,
      description := "Committee jurisdiction description" },
    { name := "url", type := .standard .string, description := "Committee website URL" }]
  queryTools := [
    { name := "get_committee"
      description := "Get detailed information about a committee"
      template :=
        "MATCH (c:Committee \x7bsystem_code: $system_code\x7d) RETURN c"
      parameters := Registry.ofList [("system_code", "string")] },
    { name := "committee_bills"
      description := "Find bills referred to a committee"
      template :=
        "MATCH (b:Bill)-[:REFERRED_TO]->(c:Committee \x7bsystem_code: $system_code\x7d) " ++
        "RETURN b ORDER BY b.introduced_date DESC LIMIT $limit"
      parameters := Registry.ofList [("system_code", "string"), ("limit", "integer")] },
    { name := "subcommittees"
      description := "Find subcommittees of a committee"
      template :=
        "MATCH (c:Committee \x7bparent_committee: $system_code\x7d) RETURN c"
      parameters := Registry.ofList [("system_code", "string")] }]

def relationshipTypes : List RelationshipType := [
  { name := "SPONSORS", source := "Member", target := "Bill",
    description := "Member is the primary sponsor of a bill",
    properties := [
      { name := "date", type := .standard .date, description := "Date of sponsorship" }] },
  { name := "COSPONSORS", source := "Member", target := "Bill",
    description := "Member is a cosponsor of a bill",
    properties := [
      { name := "date", type := .standard .date, description := "Date of cosponsorship" },
      { name := "withdrawn", type := .standard .boolean,
        description := "Whether cosponsorship was withdrawn" }] },
  { name := "SERVES_ON", source := "Member", target := "Committee",
    description := "Member serves on a committee",
    properties := [
      { name := "role", type := .standard .string,
        description := "Role (Chair, Ranking Member, Member)" },
      { name := "start_date", type := .standard .date, description := "Start of service" }] },
  { name := "REFERRED_TO", source := "Bill", target := "Committee",
    description := "Bill was referred to a committee",
    properties := [
      { name := "date", type := .standard .date, description := "Date of referral" }] },
  { name := "RELATED_TO", source := "Bill", target := "Bill",
    description := "Bills are related (companion, identical, etc.)",
    properties := [
      { name := "relationship_type", type := .standard .string,
        description := "Type of relationship" }] },
  { name := "AMENDS", source := "Bill", target := "Bill",
    description := "Bill amends another bill" },
  { name := "SUBCOMMITTEE_OF", source := "Committee", target := "Committee",
    description := "Subcommittee belongs to parent committee" }]

def ontology : Ontology where
  domain := domain
  version := "1.0.0"
  description := "Bills, members and committees of the U.S. Congress"
  nodes := Registry.ofList [bill, member, committee]
  relationships := Registry.ofList relationshipTypes

end Ontograph.Congressional
