/-
The cards that are known by name.
-/
import TripCards.Files.FilePath
import TripCards.Schema.Check

namespace TripCards

/-- A card: the name it is asked for by, the file of its template inside of the template folder,
and what its data has to be like. -/
structure CardKind where
  id : String
  file : FilePath
  schema : Schema

namespace Catalog

open FieldRule Rule

def gasStation : CardKind where
  id := "gas-station"
  file := ⟨"recommendation/gas-station.html"⟩
  schema := {
    key := ["message_title", "station_name", "navigate_button_text"]
    keySequences := []
    fields := [
      optional "message_icon" text,
      needed "message_title" text,
      needed "message_content" text,
      optional "station_icon" text,
      needed "station_name" text,
      needed "station_image" webAddress,
      needed "fuel_types" text,
      needed "distance" text,
      needed "address" text,
      needed "operating_hours" text,
      optional "services" text,
      needed "navigate_alert_text" text,
      needed "navigate_button_text" text]
    defaults := [("message_icon", "⛽")] }

/-- From zero to five stars. -/
def stars : Rule := number (some 0) (some 5)

def count : Rule := number (some 0) none

def attraction : CardKind where
  id := "attraction"
  file := ⟨"recommendation/attraction.html"⟩
  schema := {
    key := ["message_title", "attraction_name", "navigate_button_text"]
    keySequences := []
    fields := [
      optional "message_icon" text,
      needed "message_title" text,
      needed "message_content" text,
      optional "attraction_icon" text,
      needed "attraction_name" text,
      needed "attraction_image" webAddress,
      optional "rating" stars,
      optional "review_count" count,
      needed "distance" text,
      needed "address" text,
      needed "operating_hours" text,
      needed "ticket_info" text,
      needed "navigate_alert_text" text,
      needed "navigate_button_text" text]
    defaults := [("message_icon", "🏛️")] }

def restaurant : CardKind where
  id := "restaurant"
  file := ⟨"recommendation/restaurant.html"⟩
  schema := {
    key := ["message_title", "restaurant_name", "navigate_button_text"]
    keySequences := []
    fields := [
      optional "message_icon" text,
      needed "message_title" text,
      needed "message_content" text,
      optional "restaurant_icon" text,
      needed "restaurant_name" text,
      needed "restaurant_image" webAddress,
      optional "rating" stars,
      optional "review_count" count,
      needed "distance" text,
      needed "address" text,
      needed "operating_hours" text,
      optional "phone" text,
      needed "navigate_alert_text" text,
      needed "navigate_button_text" text]
    defaults := [("message_icon", "🍽️")] }

def departure : CardKind where
  id := "departure"
  file := ⟨"reminder/departure.html"⟩
  schema := {
    key := ["message_title", "confirm_button_text"]
    keySequences := []
    fields := [
      optional "message_icon" text,
      needed "message_title" text,
      needed "message_content" text,
      needed "current_time" text,
      needed "confirm_button_text" text]
    defaults := [("message_icon", "🚗")] }

def scheduleItem : List (FieldRule Rule) := [
  needed "label" text,
  needed "icon" text,
  needed "icon_color" text,
  needed "content" text]

def scheduleChange : CardKind where
  id := "schedule-change"
  file := ⟨"itinerary/schedule-change.html"⟩
  schema := {
    key := ["alert_title", "service_title"]
    keySequences := []
    fields := [
      optional "alert_color" text,
      optional "alert_icon" text,
      needed "alert_title" text,
      needed "alert_message" text,
      needed "service_title" text,
      needed "action_button_text" text,
      needed "action_alert_text" text,
      needed "schedule_items" (list scheduleItem)]
    defaults := [("alert_color", "text-orange-600"), ("alert_icon", "⚠️")] }

def button : List (FieldRule Rule) := [
  needed "class" text,
  needed "text" text]

def activity : List (FieldRule Rule) := [
  needed "time" text,
  needed "icon" text,
  needed "title" text,
  needed "description" text,
  needed "price" text,
  optional "buttons" (list button)]

def day : List (FieldRule Rule) := [
  needed "day_title" text,
  needed "activities" (list activity)]

def breakdownRow : List (FieldRule Rule) := [
  needed "label" text,
  needed "value" text]

def costSummary : List (FieldRule Rule) := [
  needed "title" text,
  needed "breakdown" (list breakdownRow),
  needed "total_label" text,
  needed "total_value" text]

def fullSchedule : CardKind where
  id := "full-schedule"
  file := ⟨"itinerary/full-schedule.html"⟩
  schema := {
    key := ["trip_title"]
    keySequences := ["days"]
    fields := [
      needed "trip_title" text,
      optional "print_button_text" text,
      needed "header_title" text,
      needed "header_subtitle" text,
      needed "itinerary_title" text,
      optional "schedule_section_title" text,
      needed "days" (list day),
      optional "cost_summary" (object costSummary),
      needed "footer_text" text]
    defaults := [("print_button_text", "打印行程"), ("schedule_section_title", "详细行程")] }

/-- The cards in the order in which they are listed. -/
def cards : List CardKind :=
  [gasStation, attraction, restaurant, departure, scheduleChange, fullSchedule]

def find? (id : String) : Option CardKind :=
  cards.find? (·.id == id)

def isKnown (id : String) : Bool :=
  (find? id).isSome

/-- What a name that is not known is taken for. -/
def fallback : CardKind := gasStation

def fileOf (id : String) : FilePath :=
  ((find? id).getD fallback).file

def ids : List String :=
  cards.map (·.id)

/-- Data of a card that is not known has nothing to be like. -/
def violations (id : String) (data : Fields) : List Violation :=
  match find? id with
  | some card => card.schema.violations data
  | none => []

def fillDefaults (id : String) (data : Fields) : Fields :=
  match find? id with
  | some card => card.schema.fillDefaults data
  | none => data

end Catalog
end TripCards
