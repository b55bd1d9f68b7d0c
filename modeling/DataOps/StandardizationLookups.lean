import DataOps.LibDict
import DataOps.LibText
/-!
# StandardizationLookups — the built-in tables

Keys are lower case; an organization's entries are merged over them.
-/
namespace DataOps
namespace Standardization

/-- `DEFAULT_ADDRESS_ABBREVIATIONS`. -/
def defaultAddressAbbreviations : Dict Str Str :=
  [("st".toList, "Street".toList), ("st.".toList, "Street".toList), ("ave".toList, "Avenue".toList),
   ("ave.".toList, "Avenue".toList), ("blvd".toList, "Boulevard".toList), ("blvd.".toList, "Boulevard".toList),
   ("rd".toList, "Road".toList), ("rd.".toList, "Road".toList), ("dr".toList, "Drive".toList),
   ("dr.".toList, "Drive".toList), ("ln".toList, "Lane".toList), ("ln.".toList, "Lane".toList),
   ("ct".toList, "Court".toList), ("ct.".toList, "Court".toList), ("apt".toList, "Apartment".toList),
   ("apt.".toList, "Apartment".toList), ("ste".toList, "Suite".toList), ("ste.".toList, "Suite".toList),
   ("hwy".toList, "Highway".toList), ("hwy.".toList, "Highway".toList)]

/-- `DEFAULT_COUNTRY_NAME_VARIANTS`. -/
def defaultCountryNameVariants : Dict Str Str :=
  [("us".toList, "US".toList), ("usa".toList, "US".toList), ("u.s.a.".toList, "US".toList),
   ("u.s.".toList, "US".toList), ("united states".toList, "US".toList),
   ("united states of america".toList, "US".toList), ("ca".toList, "CA".toList), ("canada".toList, "CA".toList),
   ("uk".toList, "GB".toList), ("u.k.".toList, "GB".toList), ("united kingdom".toList, "GB".toList),
   ("great britain".toList, "GB".toList), ("gb".toList, "GB".toList), ("mx".toList, "MX".toList),
   ("mexico".toList, "MX".toList), ("au".toList, "AU".toList), ("australia".toList, "AU".toList),
   ("de".toList, "DE".toList), ("germany".toList, "DE".toList), ("fr".toList, "FR".toList),
   ("france".toList, "FR".toList)]

/-- `DEFAULT_US_STATE_ABBREVIATIONS`. -/
def defaultUsStateAbbreviations : Dict Str Str :=
  [("alabama".toList, "AL".toList), ("alaska".toList, "AK".toList), ("arizona".toList, "AZ".toList),
   ("arkansas".toList, "AR".toList), ("california".toList, "CA".toList), ("colorado".toList, "CO".toList),
   ("connecticut".toList, "CT".toList), ("delaware".toList, "DE".toList), ("florida".toList, "FL".toList),
   ("georgia".toList, "GA".toList), ("hawaii".toList, "HI".toList), ("idaho".toList, "ID".toList),
   ("illinois".toList, "IL".toList), ("indiana".toList, "IN".toList), ("iowa".toList, "IA".toList),
   ("kansas".toList, "KS".toList), ("kentucky".toList, "KY".toList), ("louisiana".toList, "LA".toList),
   ("maine".toList, "ME".toList), ("maryland".toList, "MD".toList), ("massachusetts".toList, "MA".toList),
   ("michigan".toList, "MI".toList), ("minnesota".toList, "MN".toList), ("mississippi".toList, "MS".toList),
   ("missouri".toList, "MO".toList), ("montana".toList, "MT".toList), ("nebraska".toList, "NE".toList),
   ("nevada".toList, "NV".toList), ("new hampshire".toList, "NH".toList), ("new jersey".toList, "NJ".toList),
   ("new mexico".toList, "NM".toList), ("new york".toList, "NY".toList), ("north carolina".toList, "NC".toList),
   ("north dakota".toList, "ND".toList), ("ohio".toList, "OH".toList), ("oklahoma".toList, "OK".toList),
   ("oregon".toList, "OR".toList), ("pennsylvania".toList, "PA".toList), ("rhode island".toList, "RI".toList),
   ("south carolina".toList, "SC".toList), ("south dakota".toList, "SD".toList),
   ("tennessee".toList, "TN".toList), ("texas".toList, "TX".toList), ("utah".toList, "UT".toList),
   ("vermont".toList, "VT".toList), ("virginia".toList, "VA".toList), ("washington".toList, "WA".toList),
   ("west virginia".toList, "WV".toList), ("wisconsin".toList, "WI".toList), ("wyoming".toList, "WY".toList),
   ("district of columbia".toList, "DC".toList)]

/-- `DEFAULT_CA_PROVINCE_ABBREVIATIONS`. -/
def defaultCaProvinceAbbreviations : Dict Str Str :=
  [("alberta".toList, "AB".toList), ("british columbia".toList, "BC".toList), ("manitoba".toList, "MB".toList),
   ("new brunswick".toList, "NB".toList), ("newfoundland and labrador".toList, "NL".toList),
   ("northwest territories".toList, "NT".toList), ("nova scotia".toList, "NS".toList),
   ("nunavut".toList, "NU".toList), ("ontario".toList, "ON".toList), ("prince edward island".toList, "PE".toList),
   ("quebec".toList, "QC".toList), ("saskatchewan".toList, "SK".toList), ("yukon".toList, "YT".toList)]

/-- `DEFAULT_CURRENCY_SYMBOL_MAP`. -/
def defaultCurrencySymbolMap : Dict Char Str := [('€', "EUR".toList), ('£', "GBP".toList), ('¥', "JPY".toList)]

/-- `{**defaults, **entries}`. -/
def mergedLookup (defaults entries : Dict Str Str) : Dict Str Str := entries.foldl (fun d p => d.set p.1 p.2) defaults

end Standardization
end DataOps
