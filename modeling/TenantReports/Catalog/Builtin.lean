import TenantReports.Catalog.Source

/-!
# The built-in catalog

The sources of a business application: customers, contracts, projects, invoices and their items,
payments, labor entries and materials.

## Main definitions

* `Catalog.builtin`: the catalog
-/

namespace TenantReports.Catalog.Builtin

/-- Contracts. -/
def contracts : Source where
  key := "contracts"
  label := "Contracts"
  category := "sales"
  table := "contracts"
  model := "Contract"
  tenantColumn := defaultTenantColumn
  fields := [
    { key := "customer_id", label := "Customer", type := .number,
      filterable := true, sortable := true },
    { key := "end_date", label := "End date", type := .date,
      filterable := true, sortable := true, aggregatable := true },
    { key := "id", label := "ID", type := .number, sortable := true },
    { key := "start_date", label := "Start date", type := .date,
      filterable := true, sortable := true, aggregatable := true },
    { key := "status", label := "Status", type := .text, filterable := true, sortable := true },
    { key := "title", label := "Title", type := .text, filterable := true, sortable := true },
    { key := "value", label := "Contract value", type := .number,
      filterable := true, sortable := true, aggregatable := true }]
  relations := [
    { key := "customer", target := "customers", cardinality := .manyToOne,
      localField := some "customer_id", foreignField := some "id" },
    { key := "projects", target := "projects", cardinality := .oneToMany,
      localField := some "id", foreignField := some "contract_id" }]

/-- Customers. -/
def customers : Source where
  key := "customers"
  label := "Customers"
  category := "sales"
  table := "customers"
  model := "Customer"
  tenantColumn := defaultTenantColumn
  fields := [
    { key := "city", label := "City", type := .text, filterable := true, sortable := true },
    { key := "country", label := "Country", type := .text, filterable := true, sortable := true },
    { key := "created_at", label := "Created", type := .datetime,
      filterable := true, sortable := true },
    { key := "email", label := "Email", type := .text, filterable := true, sortable := true },
    { key := "id", label := "ID", type := .number, sortable := true },
    { key := "is_active", label := "Active", type := .boolean, filterable := true },
    { key := "name", label := "Name", type := .text,
      filterable := true, sortable := true, aggregatable := true }]
  relations := [
    { key := "contracts", target := "contracts", cardinality := .oneToMany,
      localField := some "id", foreignField := some "customer_id" },
    { key := "invoices", target := "invoices", cardinality := .oneToMany,
      localField := some "id", foreignField := some "customer_id" },
    { key := "projects", target := "projects", cardinality := .oneToMany,
      localField := some "id", foreignField := some "customer_id" }]

/-- Invoice items. -/
def invoiceItems : Source where
  key := "invoice_items"
  label := "Invoice items"
  category := "finance"
  table := "invoice_items"
  model := "InvoiceItem"
  tenantColumn := defaultTenantColumn
  fields := [
    { key := "description", label := "Description", type := .text,
      filterable := true, sortable := true },
    { key := "id", label := "ID", type := .number, sortable := true },
    { key := "invoice_id", label := "Invoice", type := .number,
      filterable := true, sortable := true },
    { key := "line_total", label := "Line total", type := .number,
      filterable := true, sortable := true, aggregatable := true },
    { key := "quantity", label := "Quantity", type := .number,
      filterable := true, sortable := true, aggregatable := true },
    { key := "unit_price", label := "Unit price", type := .number,
      filterable := true, sortable := true, aggregatable := true }]
  relations := [
    { key := "invoice", target := "invoices", cardinality := .manyToOne,
      localField := some "invoice_id", foreignField := some "id" }]

/-- Invoices. -/
def invoices : Source where
  key := "invoices"
  label := "Invoices"
  category := "finance"
  table := "invoices"
  model := "Invoice"
  tenantColumn := defaultTenantColumn
  fields := [
    { key := "created_at", label := "Created", type := .datetime,
      filterable := true, sortable := true },
    { key := "currency", label := "Currency", type := .text,
      filterable := true, sortable := true },
    { key := "customer_id", label := "Customer", type := .number,
      filterable := true, sortable := true },
    { key := "due_on", label := "Due date", type := .date,
      filterable := true, sortable := true, aggregatable := true },
    { key := "id", label := "ID", type := .number, sortable := true, aggregatable := true },
    { key := "issued_on", label := "Issue date", type := .date,
      filterable := true, sortable := true, aggregatable := true },
    { key := "number", label := "Invoice number", type := .text,
      filterable := true, sortable := true },
    { key := "status", label := "Status", type := .text, filterable := true, sortable := true },
    { key := "tax_amount", label := "Tax", type := .number,
      filterable := true, sortable := true, aggregatable := true },
    { key := "total_amount", label := "Total", type := .number,
      filterable := true, sortable := true, aggregatable := true }]
  relations := [
    { key := "customer", target := "customers", cardinality := .manyToOne,
      localField := some "customer_id", foreignField := some "id" },
    { key := "items", target := "invoice_items", cardinality := .oneToMany,
      localField := some "id", foreignField := some "invoice_id" },
    { key := "payments", target := "payments", cardinality := .oneToMany,
      localField := some "id", foreignField := some "invoice_id" }]

/-- Labor entries. -/
def laborEntries : Source where
  key := "labor_entries"
  label := "Labor entries"
  category := "operations"
  table := "labor_entries"
  model := "LaborEntry"
  tenantColumn := defaultTenantColumn
  fields := [
    { key := "hourly_rate", label := "Hourly rate", type := .number,
      filterable := true, sortable := true, aggregatable := true },
    { key := "hours", label := "Hours", type := .number,
      filterable := true, sortable := true, aggregatable := true },
    { key := "id", label := "ID", type := .number, sortable := true },
    { key := "project_id", label := "Project", type := .number,
      filterable := true, sortable := true },
    { key := "total_cost", label := "Total cost", type := .number,
      filterable := true, sortable := true, aggregatable := true },
    { key := "work_date", label := "Work date", type := .date,
      filterable := true, sortable := true },
    { key := "worker_name", label := "Worker", type := .text,
      filterable := true, sortable := true }]
  relations := [
    { key := "project", target := "projects", cardinality := .manyToOne,
      localField := some "project_id", foreignField := some "id" }]

/-- Materials. -/
def materials : Source where
  key := "materials"
  label := "Materials"
  category := "operations"
  table := "materials"
  model := "Material"
  tenantColumn := defaultTenantColumn
  fields := [
    { key := "id", label := "ID", type := .number, sortable := true },
    { key := "name", label := "Material", type := .text, filterable := true, sortable := true },
    { key := "project_id", label := "Project", type := .number,
      filterable := true, sortable := true },
    { key := "purchased_on", label := "Purchase date", type := .date,
      filterable := true, sortable := true },
    { key := "quantity", label := "Quantity", type := .number,
      filterable := true, sortable := true, aggregatable := true },
    { key := "total_cost", label := "Total cost", type := .number,
      filterable := true, sortable := true, aggregatable := true },
    { key := "unit_cost", label := "Unit cost", type := .number,
      filterable := true, sortable := true, aggregatable := true }]
  relations := [
    { key := "project", target := "projects", cardinality := .manyToOne,
      localField := some "project_id", foreignField := some "id" }]

/-- Payments. -/
def payments : Source where
  key := "payments"
  label := "Payments"
  category := "finance"
  table := "payments"
  model := "Payment"
  tenantColumn := defaultTenantColumn
  fields := [
    { key := "amount", label := "Amount", type := .number,
      filterable := true, sortable := true, aggregatable := true },
    { key := "id", label := "ID", type := .number, sortable := true },
    { key := "invoice_id", label := "Invoice", type := .number,
      filterable := true, sortable := true },
    { key := "method", label := "Method", type := .text, filterable := true, sortable := true },
    { key := "paid_at", label := "Paid at", type := .datetime,
      filterable := true, sortable := true, aggregatable := true }]
  relations := [
    { key := "invoice", target := "invoices", cardinality := .manyToOne,
      localField := some "invoice_id", foreignField := some "id" }]

/-- Projects. -/
def projects : Source where
  key := "projects"
  label := "Projects"
  category := "operations"
  table := "projects"
  model := "Project"
  tenantColumn := defaultTenantColumn
  fields := [
    { key := "budget", label := "Budget", type := .number,
      filterable := true, sortable := true, aggregatable := true },
    { key := "contract_id", label := "Contract", type := .number,
      filterable := true, sortable := true },
    { key := "customer_id", label := "Customer", type := .number,
      filterable := true, sortable := true },
    { key := "id", label := "ID", type := .number, sortable := true },
    { key := "name", label := "Name", type := .text, filterable := true, sortable := true },
    { key := "started_on", label := "Start date", type := .date,
      filterable := true, sortable := true },
    { key := "status", label := "Status", type := .text, filterable := true, sortable := true }]
  relations := [
    { key := "contract", target := "contracts", cardinality := .manyToOne,
      localField := some "contract_id", foreignField := some "id" },
    { key := "customer", target := "customers", cardinality := .manyToOne,
      localField := some "customer_id", foreignField := some "id" },
    { key := "labor_entries", target := "labor_entries", cardinality := .oneToMany,
      localField := some "id", foreignField := some "project_id" },
    { key := "materials", target := "materials", cardinality := .oneToMany,
      localField := some "id", foreignField := some "project_id" }]

end TenantReports.Catalog.Builtin

namespace TenantReports.Catalog

/-- The built-in catalog. -/
def builtin : Catalog :=
  ⟨[Builtin.contracts, Builtin.customers, Builtin.invoiceItems, Builtin.invoices,
    Builtin.laborEntries, Builtin.materials, Builtin.payments, Builtin.projects]⟩

end TenantReports.Catalog
