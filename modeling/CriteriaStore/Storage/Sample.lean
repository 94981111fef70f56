import CriteriaStore.Storage.Connection
/-!
# A sample database

Six tables that show each kind of key and constraint. Only the customers have records at first.
-/

namespace CriteriaStore.Storage.Sample

/-- Customers and what they have earned the house. -/
def customers : Schema where
  name := "customers"
  columns := [
    { name := "customer_id", type := .integer },
    { name := "customer_name", type := .text },
    { name := "total_orders", type := .integer },
    { name := "total_earnings", type := .real },
    { name := "created_at", type := .text }]
  key := "customer_id"
  keyKind := .numbered

/-- Users, whose numbers are never given twice. -/
def users : Schema where
  name := "users"
  columns := [
    { name := "user_id", type := .integer },
    { name := "username", type := .text, required := true },
    { name := "is_active", type := .integer, required := true }]
  key := "user_id"
  keyKind := .sequential

/-- Tags, which are known by a text. -/
def tags : Schema where
  name := "tags"
  columns := [
    { name := "tag_id", type := .text },
    { name := "label", type := .text }]
  key := "tag_id"
  keyKind := .natural

/-- Flags with a truth value. -/
def flags : Schema where
  name := "flags"
  columns := [
    { name := "flag_id", type := .integer },
    { name := "is_on", type := .boolean }]
  key := "flag_id"
  keyKind := .numbered

/-- Counters, which have nothing but a number. -/
def counters : Schema where
  name := "counters"
  columns := [{ name := "counter_id", type := .integer }]
  key := "counter_id"
  keyKind := .numbered

/-- Orders of customers, with a code that rolls the transaction back when it is taken. -/
def orders : Schema where
  name := "orders"
  columns := [
    { name := "order_id", type := .integer },
    { name := "customer_id", type := .integer, references := some "customers" },
    { name := "code", type := .text, unique := some .transaction }]
  key := "order_id"
  keyKind := .numbered

/-- One record of the customers. -/
def customer (number : Int64) (name : String) (orders : Int64) (earnings : Float) (created : String) : Record :=
  OrderedMap.ofList [
    ("customer_id", .int number),
    ("customer_name", .text name),
    ("total_orders", .int orders),
    ("total_earnings", .real earnings),
    ("created_at", .text created)]

/-- The six tables. -/
def database : Database where
  tables := [
    { schema := customers
      records := [
        customer 1 "John Doe" 3 5.55 "2014-12-11",
        customer 2 "Junichi Masuda" 3 50978.33 "2013-02-22",
        customer 3 "Shigeru Miyamoto" 5 47889.85 "2010-12-01",
        customer 4 "Ken Sugimori" 4 69158.69 "2010-12-10"] },
    { schema := users, records := [] },
    { schema := tags, records := [] },
    { schema := flags, records := [] },
    { schema := counters, records := [] },
    { schema := orders, records := [] }]

/-- A connection to the sample database, after its records were added. -/
def connection : Connection := { database, lastNumber := 4 }

end CriteriaStore.Storage.Sample
