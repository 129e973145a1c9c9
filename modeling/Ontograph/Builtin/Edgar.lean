/-
Ontograph.Builtin.Edgar — companies and their filings.

The ontology of public company filings: which company filed which document,
and which document amends which.
-/
import Ontograph.Ontology.Basic

namespace Ontograph.Edgar

def domain : String := "edgar"

def company : NodeType where
  name := "Company"
  description := "SEC registered company"
  domain := domain
  schemaOrgType := some "Corporation"
  additionalLabels := ["Organization"]
  identityKeys := ["cik"]
  properties := commonProperties ++ [
    { name := "cik", type := .standard .string, required := true, unique := true,
      description := "Central Index Key (SEC identifier)" },
    { name := "ticker", type := .standard .string, indexed := true,
      description := "Stock ticker symbol" },
    { name := "name", type := .standard .string, required := true, fulltext := true,
      description := "Company name" },
    { name := "sic", type := .standard .string, indexed := true,
      description := "Standard Industrial Classification code" },
    { name := "sic_description", type := .standard .string,
      description := "SIC industry description" },
    { name := "state", type := .standard .string, indexed := true,
      description := "State of incorporation" },
    { name := "fiscal_year_end", type := .standard .string,
      description := "Fiscal year end (MMDD)" }]
  queryTools := [
    { name := "get_company"
      description := "Get a company by its Central Index Key"
      template :=
        "MATCH (c:Company \x7bcik: $cik\x7d) RETURN c"
      parameters := Registry.ofList [("cik", "string")] },
    { name := "company_by_ticker"
      description := "Find a company by stock ticker"
      template :=
        "MATCH (c:Company \x7bticker: $ticker\x7d) RETURN c"
      parameters := Registry.ofList [("ticker", "string")] },
    { name := "company_filings"
      description := "List a company's filings of one form type, newest first"
      template :=
        "MATCH (c:Company \x7bcik: $cik\x7d)-[:FILED]->(f:Filing \x7bform_type: " ++
        "$form_type\x7d) RETURN f ORDER BY f.filing_date DESC LIMIT $limit"
      parameters := Registry.ofList [("cik", "string"), ("form_type", "string"), ("limit", "integer")] }]

def filing : NodeType where
  name := "Filing"
  description := "SEC filing (10-K, 10-Q, 8-K, etc.)"
  domain := domain
  schemaOrgType := some "DigitalDocument"
  additionalLabels := ["Document"]
  identityKeys := ["accession_number"]
  properties := commonProperties ++ [
    { name := "accession_number", type := .standard .string, required := true, unique := true,
      description := "Unique filing accession number" },
    { name := "cik", type := .standard .string, required := true, indexed := true,
      description := "Company CIK" },
    { name := "form_type", type := .standard .string, required := true, indexed := true,
      description := "Form type (10-K, 10-Q, 8-K, etc.)" },
    { name := "filing_date", type := .standard .date, indexed := true,
      description := "Date filed with SEC" },
    { name := "period_of_report", type := .standard .date,
      description := "Reporting period end date" },
    { name := "company_name", type := .standard .string, fulltext := true,
      description := "Company name" },
    { name := "primary_document", type := .standard .string,
      description := "Primary document filename" },
    { name := "document_url", type := .standard .string,
      description := "URL to filing document" }]
  queryTools := [
    { name := "get_filing"
      description := "Get a filing by accession number"
      template :=
        "MATCH (f:Filing \x7baccession_number: $accession_number\x7d) RETURN f"
      parameters := Registry.ofList [("accession_number", "string")] },
    { name := "recent_filings"
      description := "Most recent filings of a form type across all companies"
      template :=
        "MATCH (f:Filing \x7bform_type: $form_type\x7d) RETURN f ORDER BY f.filing_date DESC " ++
        "LIMIT $limit"
      parameters := Registry.ofList [("form_type", "string"), ("limit", "integer")] }]

def relationshipTypes : List RelationshipType := [
  { name := "FILED", source := "Company", target := "Filing",
    description := "Company submitted the filing",
    properties := [
      { name := "filing_date", type := .standard .date, indexed := true,
        description := "Date filed" }] },
  { name := "AMENDS_FILING", source := "Filing", target := "Filing",
    description := "Amendment (e.g. 10-K/A) of an earlier filing" }]

def ontology : Ontology where
  domain := domain
  version := "1.0.0"
  description := "Companies and filings from SEC EDGAR"
  nodes := Registry.ofList [company, filing]
  relationships := Registry.ofList relationshipTypes

end Ontograph.Edgar
