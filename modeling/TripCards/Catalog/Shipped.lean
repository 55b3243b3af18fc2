/-
The templates that the cards come with.

They are written as trees, part by part, and a part may end in text where the next one begins with
text. The texts of the template files are the sources of the trees.
-/
import TripCards.Catalog
import TripCards.Template.Source

namespace TripCards
namespace Catalog
namespace Shipped

open Node

/-- The value of a field between two texts. -/
def shown (before name after : String) : List Node :=
  [text before, slot (.ofString name), text after]

/-- Shown if the field has a value that holds. -/
def given (name : String) (body : List Node) : List Node :=
  [block .conditional (.ofString name) body]

/-- Shown once for each item of the field. -/
def each (name : String) (body : List Node) : List Node :=
  [block .repeated (.ofString name) body]

def message : List Node :=
  [text "  <div class=\"message\">\n"] ++
  shown "    <span class=\"message-icon\">" "message_icon" "</span>\n" ++
  shown "    <h3 class=\"message-title\">" "message_title" "</h3>\n" ++
  shown "    <p class=\"message-content\">" "message_content" "</p>\n" ++
  [text "  </div>\n"]

/-- The picture and the name of a place, of which the fields have names that begin alike. -/
def portrait (place : String) : List Node :=
  [text "  <div class=\"place\">\n"] ++
  shown "    <img class=\"place-image\" src=\"" (place ++ "_image") "\"" ++
  shown " alt=\"" (place ++ "_name") "\">\n" ++
  [text "    <h4 class=\"place-name\">"] ++
  given (place ++ "_icon") (shown "" (place ++ "_icon") " ") ++
  shown "" (place ++ "_name") "</h4>\n"

def ratingLine : List Node :=
  [text "    "] ++
  given "rating"
    (shown "<div class=\"rating\">★ " "rating" "" ++
      given "review_count" (shown " (" "review_count" " reviews)") ++
      [text "</div>"]) ++
  [text "\n"]

def detail (label name : String) : List Node :=
  shown ("<li>" ++ label ++ ": ") name "</li>"

/-- The list of what is to be known about a place, each detail on a line of its own. -/
def details (lines : List (List Node)) : List Node :=
  [text "    <ul class=\"place-details\">\n"] ++
  lines.flatMap (fun line => [text "      "] ++ line ++ [text "\n"]) ++
  [text "    </ul>\n", text "  </div>\n"]

def navigateButton : List Node :=
  shown "  <button class=\"navigate\" onclick=\"alert('" "navigate_alert_text" "')\">" ++
  shown "" "navigate_button_text" "</button>\n"

def cardOf (kind : String) (body : List Node) : List Node :=
  [text ("<div class=\"card " ++ kind ++ "\">\n")] ++ body ++ [text "</div>\n"]

def gasStationCard : List Node :=
  cardOf "recommendation gas-station" <|
    message ++
    portrait "station" ++
    details [
      detail "Fuel" "fuel_types",
      detail "Distance" "distance",
      detail "Address" "address",
      detail "Hours" "operating_hours",
      given "services" (detail "Services" "services")] ++
    navigateButton

def attractionCard : List Node :=
  cardOf "recommendation attraction" <|
    message ++
    portrait "attraction" ++
    ratingLine ++
    details [
      detail "Distance" "distance",
      detail "Address" "address",
      detail "Hours" "operating_hours",
      detail "Tickets" "ticket_info"] ++
    navigateButton

def restaurantCard : List Node :=
  cardOf "recommendation restaurant" <|
    message ++
    portrait "restaurant" ++
    ratingLine ++
    details [
      detail "Distance" "distance",
      detail "Address" "address",
      detail "Hours" "operating_hours",
      given "phone" (detail "Phone" "phone")] ++
    navigateButton

def departureCard : List Node :=
  cardOf "reminder departure" <|
    message ++
    [text "  "] ++
    given "current_time" (shown "<p class=\"current-time\">" "current_time" "</p>") ++
    [text "\n"] ++
    shown "  <button class=\"confirm\">" "confirm_button_text" "</button>\n"

def scheduleChangeItem : List Node :=
  [text "<li class=\"schedule-item"] ++ given "@last" [text " last"] ++ [text "\">\n"] ++
  shown "        <span class=\"icon " "icon_color" "\">" ++ shown "" "icon" "</span>\n" ++
  shown "        <span class=\"label\">" "label" "</span>\n" ++
  shown "        <span class=\"content\">" "content" "</span>\n" ++
  [text "      </li>\n      "]

def scheduleChangeCard : List Node :=
  cardOf "itinerary schedule-change" <|
    shown "  <div class=\"alert " "alert_color" "\">\n" ++
    shown "    <span class=\"alert-icon\">" "alert_icon" "</span>\n" ++
    shown "    <h3 class=\"alert-title\">" "alert_title" "</h3>\n" ++
    shown "    <p class=\"alert-message\">" "alert_message" "</p>\n" ++
    [text "  </div>\n", text "  <div class=\"service\">\n"] ++
    shown "    <h4 class=\"service-title\">" "service_title" "</h4>\n" ++
    [text "    <ul class=\"schedule-items\">\n", text "      "] ++
    each "schedule_items" scheduleChangeItem ++
    [text "\n", text "    </ul>\n", text "  </div>\n"] ++
    shown "  <button class=\"action\" onclick=\"alert('" "action_alert_text" "')\">" ++
    shown "" "action_button_text" "</button>\n"

def activityButtons : List Node :=
  given "buttons"
    ([text "<div class=\"buttons\">"] ++
      each "buttons" (shown "<button class=\"" "class" "\">" ++ shown "" "text" "</button>") ++
      [text "</div>"])

def activityBlock : List Node :=
  [text "\n", text "        <div class=\"activity\">\n"] ++
  shown "          <span class=\"time\">" "time" "</span>\n" ++
  shown "          <span class=\"icon\">" "icon" "</span>\n" ++
  [text "          <div class=\"body\">\n"] ++
  shown "            <h5>" "title" "</h5>\n" ++
  shown "            <p>" "description" "</p>\n" ++
  shown "            <span class=\"price\">" "price" "</span>\n" ++
  [text "            "] ++ activityButtons ++ [text "\n"] ++
  [text "          </div>\n", text "        </div>\n", text "        "]

def dayBlock : List Node :=
  [text "\n", text "      <div class=\"day"] ++ given "@first" [text " first"] ++
  shown "\" data-index=\"" "@index" "\">\n" ++
  shown "        <h4>" "day_title" "</h4>\n" ++
  [text "        "] ++ each "activities" activityBlock ++ [text "\n"] ++
  [text "      </div>\n", text "      "]

def costBlock : List Node :=
  [text "\n", text "    <section class=\"cost-summary\">\n"] ++
  shown "      <h3>" "cost_summary.title" "</h3>\n" ++
  [text "      <dl>\n", text "        "] ++
  each "cost_summary.breakdown" (shown "<dt>" "label" "</dt>" ++ shown "<dd>" "value" "</dd>") ++
  [text "\n", text "      </dl>\n"] ++
  shown "      <p class=\"total\">" "cost_summary.total_label" ": " ++
  shown "" "cost_summary.total_value" "</p>\n" ++
  [text "    </section>\n", text "    "]

def fullScheduleCard : List Node :=
  [text "<!DOCTYPE html>\n", text "<html>\n", text "<head>\n"] ++
  [text "  <meta charset=\"utf-8\">\n"] ++
  shown "  <title>" "trip_title" "</title>\n" ++
  [text "</head>\n", text "<body>\n"] ++
  shown "  <button class=\"print\" onclick=\"window.print()\">" "print_button_text" "</button>\n" ++
  [text "  <header>\n"] ++
  shown "    <h1>" "header_title" "</h1>\n" ++
  shown "    <p>" "header_subtitle" "</p>\n" ++
  [text "  </header>\n", text "  <main>\n"] ++
  shown "    <h2>" "itinerary_title" "</h2>\n" ++
  [text "    <section class=\"schedule\">\n"] ++
  shown "      <h3>" "schedule_section_title" "</h3>\n" ++
  [text "      "] ++ each "days" dayBlock ++ [text "\n", text "    </section>\n", text "    "] ++
  given "cost_summary" costBlock ++
  [text "\n", text "  </main>\n"] ++
  shown "  <footer>" "footer_text" "</footer>\n" ++
  [text "</body>\n", text "</html>\n"]

/-- The cards, each with what its template file holds. -/
def templates : List (CardKind × Template) := [
  (gasStation, ⟨gasStationCard⟩),
  (attraction, ⟨attractionCard⟩),
  (restaurant, ⟨restaurantCard⟩),
  (departure, ⟨departureCard⟩),
  (scheduleChange, ⟨scheduleChangeCard⟩),
  (fullSchedule, ⟨fullScheduleCard⟩)]

/-- The text of the template file that comes with a card. -/
def source? (id : String) : Option String :=
  (templates.find? fun (card, _) => card.id == id).map fun (_, template) => template.source

end Shipped
end Catalog
end TripCards
